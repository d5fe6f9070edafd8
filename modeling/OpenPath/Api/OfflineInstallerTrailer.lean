/-
# Trailer of an offline installer

An installer is a program with a trailer of a fixed size behind it: a header, a
slot with the configuration as JSON, padded with zeros, and an epilogue, from
which a reader finds its way back to the header. The writer fills buffers at
fixed offsets; the reader takes them apart at offsets of its own, checks every
field and the digest of the configuration, and reads and writes files in pieces
that the operating system chooses.

What the reader accepts is a file that ends in exactly such a trailer, and what
the writer appends to any file is read back. Putting another configuration into
an installer changes nothing before its trailer.
-/

import OpenPath.Foundation.Buffers
import OpenPath.Foundation.Except
import OpenPath.Shared.OfflineInstaller

namespace OpenPath.Api.OfflineInstallerTrailer

open Foundation OfflineInstaller

abbrev Bytes := List UInt8

/-- The digest of `node:crypto`, the platform's JSON in UTF-8, and its URLs. -/
structure Platform where
  sha256 : Bytes → Bytes
  length_sha256 : ∀ bytes, (sha256 bytes).length = 32
  stringify : OfflineInstaller.Json → Bytes
  parseJson : Bytes → Except String OfflineInstaller.Json
  parseUrl : Text → Option ParsedUrl

/-- What the functions throw: an `Error` with its message, or the schema's own. -/
inductive Failure
  | error (message : String)
  | zodError
  deriving DecidableEq

variable (platform : Platform)

/-- `Buffer.from(text, 'binary')` -/
def latin1 (text : String) : Bytes := text.toList.map fun c => UInt8.ofNat c.toNat

def headerMagicBytes : Bytes := latin1 headerMagic

def epilogueMagicBytes : Bytes := latin1 epilogueMagic

/-- `Buffer.alloc(length)` -/
def alloc (length : Nat) : Bytes := List.replicate length 0

/-! ## Writing -/

def buildHeader (payload : Bytes) (slotLength : Nat) : Bytes :=
  let header := alloc headerSize
  let header := patch header 0 headerMagicBytes
  let header := patch header 8 (littleEndian 2 schemaVersion)
  let header := patch header 10 (littleEndian 2 flags)
  let header := patch header 12 (littleEndian 4 payload.length)
  let header := patch header 16 (littleEndian 4 slotLength)
  patch header 20 (platform.sha256 payload)

def buildEpilogue (slotLength : Nat) : Bytes :=
  let epilogue := alloc epilogueSize
  let epilogue := patch epilogue 0 epilogueMagicBytes
  let epilogue := patch epilogue 4 (littleEndian 4 slotLength)
  let epilogue := patch epilogue 8 (littleEndian 4 headerSize)
  patch epilogue 12 (littleEndian 4 epilogueSize)

def buildSlot (payload : Bytes) (slotLength : Nat) : Bytes := patch (alloc slotLength) 0 payload

def payloadTooLong : Failure := .error "Payload exceeds offline installer slot length"

def serializePayload (config : Config) : Except Failure Bytes :=
  if !config.valid platform.parseUrl then .error .zodError
  else
    let payload := platform.stringify config.toJson
    if slotLength < payload.length then .error payloadTooLong
    else .ok payload

/-- The trailer around a payload that fits its slot. -/
def trailerOf (payload : Bytes) (slotLength : Nat) : Bytes :=
  buildHeader platform payload slotLength ++ buildSlot payload slotLength ++
    buildEpilogue slotLength

def buildTrailer (payload : Bytes) (slotLength : Nat) : Except Failure Bytes :=
  if slotLength < payload.length then .error payloadTooLong
  else .ok (trailerOf platform payload slotLength)

def serialize (config : Config) : Except Failure Bytes := do
  let payload ← serializePayload platform config
  buildTrailer platform payload slotLength

/-! ## Reading -/

/-- An open file. A read returns some of the bytes that were asked for, and none
only at the end of the file. -/
structure ReadHandle (file : Bytes) where
  bytesRead : Nat → Nat → Nat
  bytesRead_le : ∀ position length, bytesRead position length ≤ min length (file.length - position)
  bytesRead_pos : ∀ position length, 0 < length → position < file.length →
    0 < bytesRead position length

/-- The loop of `readExactly`, after the first bytes of the buffer. Each round
reads at least one byte, so that there are no more rounds than bytes. -/
def readLoop {file : Bytes} (handle : ReadHandle file) (length position : Nat) (label : String) :
    Nat → Bytes → Except Failure Bytes
  | 0, buffer => .ok buffer
  | rounds + 1, buffer =>
      if buffer.length < length then
        let bytesRead := handle.bytesRead (position + buffer.length) (length - buffer.length)
        if bytesRead = 0 then
          .error (.error ("Failed to read complete " ++ label ++ ": expected " ++ toString length ++
            " bytes, received " ++ toString buffer.length))
        else
          readLoop handle length position label rounds
            (buffer ++ slice file (position + buffer.length) bytesRead)
      else .ok buffer

def readExactly {file : Bytes} (handle : ReadHandle file) (length position : Nat)
    (label : String) : Except Failure Bytes :=
  readLoop handle length position label length []

def readUInt16LE (buffer : Bytes) (offset : Nat) : Nat := ofLittleEndian (slice buffer offset 2)

def readUInt32LE (buffer : Bytes) (offset : Nat) : Nat := ofLittleEndian (slice buffer offset 4)

def validateSlotLength (length : Nat) : Except Failure Unit :=
  if length ≠ slotLength then
    .error (.error ("Offline installer trailer slot length must be " ++ toString slotLength ++
      " in schema v1"))
  else .ok ()

def validateZeroPadding (slot : Bytes) (payloadLength : Nat) : Except Failure Unit :=
  if (slot.drop payloadLength).any (· ≠ 0) then
    .error (.error "Offline installer payload slot contains non-zero padding")
  else .ok ()

def parsePayload (payload : Bytes) : Except Failure Config :=
  match platform.parseJson payload with
  | .error message => .error (.error ("Offline installer payload contains invalid JSON: " ++ message))
  | .ok parsed =>
      match parseConfig platform.parseUrl parsed with
      | none => .error .zodError
      | some config => .ok config

structure ParsedWindowsOfflineInstaller where
  config : Config
  trailerStart : Nat
  payloadLength : Nat
  slotLength : Nat
  headerSize : Nat
  epilogueSize : Nat
  payloadSha256 : Bytes

/-- `if (!holds) throw new Error(message)` -/
def require (holds : Bool) (message : String) : Except Failure Unit :=
  if holds then .ok () else .error (.error message)

/-- The slot length, from a checked epilogue. -/
def checkEpilogue (epilogue : Bytes) : Except Failure Nat := do
  require (slice epilogue 0 4 == epilogueMagicBytes)
    "Offline installer trailer epilogue magic is invalid"
  let length := readUInt32LE epilogue 4
  validateSlotLength length
  require (readUInt32LE epilogue 8 == headerSize) "Offline installer trailer header size is invalid"
  require (readUInt32LE epilogue 12 == epilogueSize)
    "Offline installer trailer epilogue size is invalid"
  return length

/-- The payload length, from a checked header. -/
def checkHeader (header : Bytes) (slotLength : Nat) : Except Failure Nat := do
  require (slice header 0 8 == headerMagicBytes) "Offline installer trailer header magic is invalid"
  require (readUInt16LE header 8 == schemaVersion)
    ("Unsupported offline installer schema version: " ++ toString (readUInt16LE header 8))
  require (readUInt16LE header 10 == flags)
    "Offline installer trailer uses unsupported flags; schema v1 requires 0"
  validateSlotLength (readUInt32LE header 16)
  require (readUInt32LE header 16 == slotLength)
    "Offline installer trailer slot length does not match the epilogue"
  let payloadLength := readUInt32LE header 12
  require (payloadLength ≤ slotLength) "Offline installer payload length exceeds slot length"
  return payloadLength

def parseFromFile {file : Bytes} (handle : ReadHandle file) :
    Except Failure ParsedWindowsOfflineInstaller := do
  let fileSize := file.length
  require (epilogueSize ≤ fileSize) "Offline installer file is too small to contain a trailer epilogue"
  let epilogue ← readExactly handle epilogueSize (fileSize - epilogueSize) "trailer epilogue"
  let slotLength ← checkEpilogue epilogue
  require (headerSize + slotLength + epilogueSize ≤ fileSize)
    "Offline installer trailer start is out of bounds"
  let trailerStart := fileSize - headerSize - slotLength - epilogueSize
  let header ← readExactly handle headerSize trailerStart "trailer header"
  let payloadLength ← checkHeader header slotLength
  let slot ← readExactly handle slotLength (trailerStart + headerSize) "payload slot"
  validateZeroPadding slot payloadLength
  let payload := slice slot 0 payloadLength
  let expectedHash := slice header 20 32
  require (platform.sha256 payload == expectedHash)
    "Offline installer payload SHA-256 does not match the header"
  let config ← parsePayload platform payload
  return { config, trailerStart, payloadLength, slotLength, headerSize, epilogueSize,
           payloadSha256 := expectedHash }

/-! ## Overlays -/

/-- A file open for writing. A write takes some of the bytes that are offered. -/
structure WriteHandle where
  bytesWritten : Nat → Nat → Nat
  bytesWritten_le : ∀ position length, bytesWritten position length ≤ length

/-- Every write takes something, as long as the device has room. -/
def WriteHandle.Progresses (handle : WriteHandle) : Prop :=
  ∀ position length, 0 < length → 0 < handle.bytesWritten position length

/-- The loop of `writeExactly`, with the file so far and the bytes that are left. -/
def writeLoop (handle : WriteHandle) (expected : Nat) (label : String) :
    Nat → Nat → Bytes → Bytes → Except Failure Bytes
  | 0, _, _, file => .ok file
  | rounds + 1, position, rest, file =>
      if 0 < rest.length then
        let bytesWritten := handle.bytesWritten position rest.length
        if bytesWritten = 0 then
          .error (.error ("Failed to write complete " ++ label ++ ": expected " ++
            toString expected ++ " bytes, wrote " ++ toString (expected - rest.length)))
        else
          writeLoop handle expected label rounds (position + bytesWritten) (rest.drop bytesWritten)
            (patch file position (rest.take bytesWritten))
      else .ok file

def writeExactly (handle : WriteHandle) (buffer : Bytes) (position : Nat) (label : String)
    (file : Bytes) : Except Failure Bytes :=
  writeLoop handle buffer.length label buffer.length position buffer file

/-- The contents of the output file. -/
def applyOverlay {template : Bytes} (reader : ReadHandle template) (writer : WriteHandle)
    (config : Config) : Except Failure Bytes := do
  let payload ← serializePayload platform config
  let parsedTemplate ← parseFromFile platform reader
  let header := buildHeader platform payload slotLength
  let slot := buildSlot payload slotLength
  let epilogue := buildEpilogue slotLength
  let output ← writeExactly writer header parsedTemplate.trailerStart "trailer header" template
  let output ← writeExactly writer slot (parsedTemplate.trailerStart + parsedTemplate.headerSize)
    "payload slot" output
  writeExactly writer epilogue
    (parsedTemplate.trailerStart + parsedTemplate.headerSize + slotLength) "trailer epilogue" output

/-! ## The buffers -/

variable {platform}

/-- Writing the next field of a buffer that is filled from the left. -/
theorem patch_alloc {written values : Bytes} {offset width rest : Nat}
    (hoffset : written.length = offset) (hwidth : values.length = width) :
    patch (written ++ alloc (width + rest)) offset values = written ++ values ++ alloc rest := by
  have hsplit : alloc (width + rest) = alloc width ++ alloc rest := List.replicate_add ..
  rw [hsplit, ← List.append_assoc, ← hoffset]
  exact patch_between written (alloc rest) (by rw [hwidth]; exact List.length_replicate)

theorem buildHeader_eq (payload : Bytes) (slotLength : Nat) :
    buildHeader platform payload slotLength =
      headerMagicBytes ++ littleEndian 2 schemaVersion ++ littleEndian 2 flags ++
        littleEndian 4 payload.length ++ littleEndian 4 slotLength ++ platform.sha256 payload := by
  have hstart : alloc headerSize = [] ++ alloc (8 + (2 + (2 + (4 + (4 + (32 + 0)))))) := rfl
  have hmagic : headerMagicBytes.length = 8 := rfl
  unfold buildHeader
  dsimp only
  rw [hstart, patch_alloc List.length_nil hmagic,
    patch_alloc (by simp [hmagic]) (length_littleEndian 2 _),
    patch_alloc (by simp [hmagic]) (length_littleEndian 2 _),
    patch_alloc (by simp [hmagic]) (length_littleEndian 4 _),
    patch_alloc (by simp [hmagic]) (length_littleEndian 4 _),
    patch_alloc (by simp [hmagic]) (platform.length_sha256 payload)]
  exact List.append_nil _

theorem buildEpilogue_eq (slotLength : Nat) :
    buildEpilogue slotLength =
      epilogueMagicBytes ++ littleEndian 4 slotLength ++ littleEndian 4 headerSize ++
        littleEndian 4 epilogueSize := by
  have hstart : alloc epilogueSize = [] ++ alloc (4 + (4 + (4 + (4 + 0)))) := rfl
  have hmagic : epilogueMagicBytes.length = 4 := rfl
  unfold buildEpilogue
  dsimp only
  rw [hstart, patch_alloc List.length_nil hmagic,
    patch_alloc (by simp [hmagic]) (length_littleEndian 4 _),
    patch_alloc (by simp [hmagic]) (length_littleEndian 4 _),
    patch_alloc (by simp [hmagic]) (length_littleEndian 4 _)]
  exact List.append_nil _

variable {payload : Bytes}

theorem buildSlot_eq {slotLength : Nat} (hfits : payload.length ≤ slotLength) :
    buildSlot payload slotLength = payload ++ alloc (slotLength - payload.length) := by
  have hsplit : slotLength = payload.length + (slotLength - payload.length) := by omega
  have hpatch := @patch_alloc [] payload 0 payload.length (slotLength - payload.length) rfl rfl
  rw [← hsplit] at hpatch
  exact hpatch

theorem length_buildHeader (payload : Bytes) (slotLength : Nat) :
    (buildHeader platform payload slotLength).length = headerSize := by
  simp only [buildHeader_eq, List.length_append, length_littleEndian, platform.length_sha256]
  rfl

theorem length_buildEpilogue (slotLength : Nat) :
    (buildEpilogue slotLength).length = epilogueSize := by
  simp only [buildEpilogue_eq, List.length_append, length_littleEndian]
  rfl

theorem length_buildSlot {slotLength : Nat} (hfits : payload.length ≤ slotLength) :
    (buildSlot payload slotLength).length = slotLength := by
  rw [buildSlot_eq hfits, List.length_append, alloc, List.length_replicate]
  omega

/-! ## Files -/

/-- Whatever the sizes of the pieces, the loop reads what it is asked for. -/
theorem readLoop_eq {file : Bytes} (handle : ReadHandle file) {length position : Nat}
    (label : String) (hfile : position + length ≤ file.length) {rounds got : Nat}
    (hgot : got ≤ length) (hrounds : length - got ≤ rounds) :
    readLoop handle length position label rounds (slice file position got) =
      .ok (slice file position length) := by
  induction rounds generalizing got with
  | zero =>
      have hall : got = length := by omega
      rw [hall, readLoop]
  | succ rounds ih =>
      have hlength : (slice file position got).length = got := by
        rw [length_slice]
        omega
      rw [readLoop, hlength]
      split
      · rename_i hmore
        have hpos := handle.bytesRead_pos (position + got) (length - got) (by omega) (by omega)
        have hle := handle.bytesRead_le (position + got) (length - got)
        rw [if_neg (by omega), slice_append_slice]
        exact ih (by omega) (by omega)
      · have hall : got = length := by omega
        rw [hall]

variable {file : Bytes} {length position : Nat}

theorem readExactly_eq (handle : ReadHandle file) (label : String)
    (hfile : position + length ≤ file.length) :
    readExactly handle length position label = .ok (slice file position length) := by
  have hloop := @readLoop_eq file handle length position label hfile length 0 (by omega) (by omega)
  exact hloop

variable {output : Bytes} {handle : WriteHandle} {label : String}

/-- A loop that ends without an error has written everything. -/
theorem writeLoop_eq_ok {expected : Nat} {rounds : Nat} {rest : Bytes}
    (hrounds : rest.length ≤ rounds) (hfile : position + rest.length ≤ file.length)
    (hwrite : writeLoop handle expected label rounds position rest file = .ok output) :
    output = patch file position rest := by
  induction rounds generalizing position rest file with
  | zero =>
      have hnil : rest = [] := List.eq_nil_of_length_eq_zero (by omega)
      rw [writeLoop] at hwrite
      rw [hnil, patch_nil]
      exact (Except.ok.inj hwrite).symm
  | succ rounds ih =>
      rw [writeLoop] at hwrite
      split at hwrite
      · dsimp only at hwrite
        split at hwrite
        · cases hwrite
        rename_i hpos
        have hle := handle.bytesWritten_le position rest.length
        generalize handle.bytesWritten position rest.length = count at hwrite hpos hle
        have htake : (rest.take count).length = count := by
          rw [List.length_take]
          omega
        have hpatched : (patch file position (rest.take count)).length = file.length :=
          length_patch (by omega)
        have hrest := ih (by rw [List.length_drop]; omega)
          (by rw [List.length_drop, hpatched]; omega) hwrite
        have hjoin := @patch_patch UInt8 file (rest.take count) (rest.drop count) position (by omega)
        rw [htake, List.take_append_drop] at hjoin
        rw [hrest, hjoin]
      · rename_i hdone
        have hnil : rest = [] := List.eq_nil_of_length_eq_zero (by omega)
        rw [hnil, patch_nil]
        exact (Except.ok.inj hwrite).symm

theorem writeExactly_eq_ok {buffer : Bytes} (hfile : position + buffer.length ≤ file.length)
    (hwrite : writeExactly handle buffer position label file = .ok output) :
    output = patch file position buffer :=
  writeLoop_eq_ok le_rfl hfile hwrite

theorem exists_writeLoop (hprogress : handle.Progresses) (expected : Nat) (label : String)
    (rounds : Nat) : ∀ (position : Nat) (rest file : Bytes),
      ∃ output, writeLoop handle expected label rounds position rest file = .ok output := by
  induction rounds with
  | zero => exact fun _ _ file => ⟨file, rfl⟩
  | succ rounds ih =>
      intro position rest file
      rw [writeLoop]
      split
      · rename_i hmore
        have hpos := hprogress position rest.length hmore
        dsimp only
        rw [if_neg (by omega)]
        exact ih _ _ _
      · exact ⟨file, rfl⟩

theorem exists_writeExactly (hprogress : handle.Progresses) (buffer : Bytes) (position : Nat)
    (label : String) (file : Bytes) :
    ∃ output, writeExactly handle buffer position label file = .ok output :=
  exists_writeLoop hprogress _ _ _ _ _ _

/-! ## Checks -/

variable {result : Unit}

theorem require_eq_ok {holds : Bool} {message : String} :
    require holds message = .ok result ↔ holds = true := by
  cases holds with
  | false => simp [require]
  | true => simp [require]

theorem validateSlotLength_eq_ok :
    validateSlotLength length = .ok result ↔ length = slotLength := by
  unfold validateSlotLength
  split
  · rename_i hother
    simp [hother]
  · rename_i hsame
    simp only [ne_eq, not_not] at hsame
    simp [hsame]

variable {epilogue : Bytes}

theorem checkEpilogue_eq_ok :
    checkEpilogue epilogue = .ok length ↔
      length = slotLength ∧ slice epilogue 0 4 = epilogueMagicBytes ∧
        readUInt32LE epilogue 4 = slotLength ∧ readUInt32LE epilogue 8 = headerSize ∧
        readUInt32LE epilogue 12 = epilogueSize := by
  simp only [checkEpilogue, bind_eq_ok, require_eq_ok, validateSlotLength_eq_ok, pure_eq_ok,
    beq_iff_eq]
  refine ⟨?_, ?_⟩
  · rintro ⟨-, hmagic, -, hslot, -, hheader, -, hepilogue, rfl⟩
    exact ⟨hslot, hmagic, hslot, hheader, hepilogue⟩
  · rintro ⟨rfl, hmagic, hslot, hheader, hepilogue⟩
    exact ⟨(), hmagic, (), hslot, (), hheader, (), hepilogue, hslot⟩

variable {header : Bytes} {payloadLength : Nat}

theorem checkHeader_eq_ok :
    checkHeader header length = .ok payloadLength ↔
      slice header 0 8 = headerMagicBytes ∧ readUInt16LE header 8 = schemaVersion ∧
        readUInt16LE header 10 = flags ∧ readUInt32LE header 16 = slotLength ∧
        length = slotLength ∧ readUInt32LE header 12 = payloadLength ∧
        payloadLength ≤ slotLength := by
  simp only [checkHeader, bind_eq_ok, require_eq_ok, validateSlotLength_eq_ok, pure_eq_ok,
    beq_iff_eq, decide_eq_true_eq]
  refine ⟨?_, ?_⟩
  · rintro ⟨-, hmagic, -, hversion, -, hflags, -, hslot, -, hsame, -, hfits, rfl⟩
    exact ⟨hmagic, hversion, hflags, hslot, hsame.symm.trans hslot, rfl,
      hfits.trans (hsame.symm.trans hslot).le⟩
  · rintro ⟨hmagic, hversion, hflags, hslot, rfl, rfl, hfits⟩
    exact ⟨(), hmagic, (), hversion, (), hflags, (), hslot, (), hslot, (), hfits, rfl⟩

/-- A number of a buffer, and the bytes that stand for it. -/
theorem readUInt32LE_eq_iff {buffer : Bytes} {offset n : Nat} (hbuffer : offset + 4 ≤ buffer.length)
    (hn : n < 256 ^ 4) : readUInt32LE buffer offset = n ↔ slice buffer offset 4 = littleEndian 4 n :=
  ofLittleEndian_eq_iff (by rw [length_slice]; omega) hn

theorem readUInt16LE_eq_iff {buffer : Bytes} {offset n : Nat} (hbuffer : offset + 2 ≤ buffer.length)
    (hn : n < 256 ^ 2) : readUInt16LE buffer offset = n ↔ slice buffer offset 2 = littleEndian 2 n :=
  ofLittleEndian_eq_iff (by rw [length_slice]; omega) hn

theorem checkEpilogue_iff (hlength : epilogue.length = epilogueSize) :
    checkEpilogue epilogue = .ok length ↔
      length = slotLength ∧ epilogue = buildEpilogue slotLength := by
  have hsize : epilogue.length = 16 := hlength
  have hparts : buildEpilogue slotLength =
      [epilogueMagicBytes, littleEndian 4 slotLength, littleEndian 4 headerSize,
        littleEndian 4 epilogueSize].flatten := by
    simp [buildEpilogue_eq]
  have hmagic : epilogueMagicBytes.length = 4 := rfl
  rw [checkEpilogue_eq_ok, hparts,
    eq_flatten_iff_placed (by rw [← hparts, length_buildEpilogue, hlength]),
    readUInt32LE_eq_iff (by omega) (by decide), readUInt32LE_eq_iff (by omega) (by decide),
    readUInt32LE_eq_iff (by omega) (by decide)]
  simp only [Placed, length_littleEndian, hmagic, and_true]

/-- A checked header is the one that the writer builds for the payload whose
digest it carries. -/
theorem checkHeader_iff (hlength : header.length = headerSize)
    (hpayload : payload.length = payloadLength) :
    (checkHeader header length = .ok payloadLength ∧
        platform.sha256 payload = slice header 20 32) ↔
      length = slotLength ∧ payloadLength ≤ slotLength ∧
        header = buildHeader platform payload slotLength := by
  have hsize : header.length = 52 := hlength
  have hparts : buildHeader platform payload slotLength =
      [headerMagicBytes, littleEndian 2 schemaVersion, littleEndian 2 flags,
        littleEndian 4 payload.length, littleEndian 4 slotLength,
        platform.sha256 payload].flatten := by
    simp [buildHeader_eq]
  have hmagic : headerMagicBytes.length = 8 := rfl
  have hfields : header = buildHeader platform payload slotLength ↔
      slice header 0 8 = headerMagicBytes ∧ slice header 8 2 = littleEndian 2 schemaVersion ∧
        slice header 10 2 = littleEndian 2 flags ∧
        slice header 12 4 = littleEndian 4 payload.length ∧
        slice header 16 4 = littleEndian 4 slotLength ∧
        slice header 20 32 = platform.sha256 payload := by
    rw [hparts, eq_flatten_iff_placed (by rw [← hparts, length_buildHeader, hlength])]
    simp only [Placed, length_littleEndian, hmagic, platform.length_sha256, and_true]
  rw [checkHeader_eq_ok, hfields, hpayload]
  have hversion := @readUInt16LE_eq_iff header 8 schemaVersion (by omega) (by decide)
  have hflags := @readUInt16LE_eq_iff header 10 flags (by omega) (by decide)
  have hslot := @readUInt32LE_eq_iff header 16 slotLength (by omega) (by decide)
  have hcount (hfits : payloadLength ≤ slotLength) :=
    @readUInt32LE_eq_iff header 12 payloadLength (by omega)
      (hfits.trans_lt (show slotLength < 256 ^ 4 by decide))
  rw [hversion, hflags, hslot]
  refine ⟨?_, ?_⟩
  · rintro ⟨⟨hmagic, hversion, hflags, hslot, hsame, hread, hfits⟩, hhash⟩
    exact ⟨hsame, hfits, hmagic, hversion, hflags, (hcount hfits).mp hread, hslot, hhash.symm⟩
  · rintro ⟨hsame, hfits, hmagic, hversion, hflags, hread, hslot, hhash⟩
    exact ⟨⟨hmagic, hversion, hflags, hslot, hsame, (hcount hfits).mpr hread, hfits⟩, hhash.symm⟩

variable {slot : Bytes}

theorem validateZeroPadding_eq_ok :
    validateZeroPadding slot payloadLength = .ok result ↔
      slot.drop payloadLength = alloc (slot.length - payloadLength) := by
  unfold validateZeroPadding
  rw [alloc, List.eq_replicate_iff, List.length_drop]
  split
  · rename_i hnonzero
    obtain ⟨byte, hbyte, hne⟩ := List.any_eq_true.mp hnonzero
    refine ⟨nofun, fun hzero => ?_⟩
    exact absurd (hzero.2 byte hbyte) (of_decide_eq_true hne)
  · rename_i hzero
    refine ⟨fun _ => ⟨rfl, fun byte hbyte => ?_⟩, fun _ => rfl⟩
    by_contra hne
    exact hzero (List.any_eq_true.mpr ⟨byte, hbyte, decide_eq_true hne⟩)

/-- A slot with zero padding is the one that the writer builds for its payload. -/
theorem validateZeroPadding_iff {slot : Bytes} {payloadLength : Nat} {result : Unit}
    (hlength : slot.length = slotLength) (hfits : payloadLength ≤ slotLength) :
    validateZeroPadding slot payloadLength = .ok result ↔
      slot = buildSlot (slice slot 0 payloadLength) slotLength := by
  have hpayload : (slice slot 0 payloadLength).length = payloadLength := by
    rw [length_slice]
    omega
  rw [validateZeroPadding_eq_ok, buildSlot_eq (by omega), hpayload, hlength]
  have hsplit : slot = slice slot 0 payloadLength ++ slot.drop payloadLength := by
    rw [slice, List.drop_zero, List.take_append_drop]
  refine ⟨?_, ?_⟩
  · intro hzero
    rw [← hzero]
    exact hsplit
  · exact fun hbuilt => List.append_cancel_left (hsplit.symm.trans hbuilt)

/-! ## Files with a trailer -/

variable {config : Config}

theorem parsePayload_eq_ok :
    parsePayload platform payload = .ok config ↔
      ∃ json, platform.parseJson payload = .ok json ∧
        parseConfig platform.parseUrl json = some config := by
  unfold parsePayload
  split
  · rename_i hjson
    simp [hjson]
  · rename_i parsed hjson
    split
    · rename_i hnone
      simp [hjson, hnone]
    · rename_i other hsome
      simp [hjson, hsome]

/-- The result of parsing a file with a trailer. -/
def parsedOf (platform : Platform) (start payload : Bytes) (config : Config) :
    ParsedWindowsOfflineInstaller where
  config := config
  trailerStart := start.length
  payloadLength := payload.length
  slotLength := slotLength
  headerSize := headerSize
  epilogueSize := epilogueSize
  payloadSha256 := platform.sha256 payload

/-- The parts of a file that ends in something of the size of a trailer. -/
theorem file_parts {file : Bytes} {trailerStart : Nat}
    (hlength : file.length = trailerStart + headerSize + slotLength + epilogueSize) :
    file = slice file 0 trailerStart ++ (slice file trailerStart headerSize ++
      slice file (trailerStart + headerSize) slotLength ++
        slice file (trailerStart + headerSize + slotLength) epilogueSize) := by
  rw [slice_append_slice, Nat.add_assoc trailerStart, slice_append_slice]
  have hjoin := slice_append_slice file 0 trailerStart (headerSize + slotLength + epilogueSize)
  rw [Nat.zero_add] at hjoin
  rw [hjoin, ← Nat.add_assoc, ← Nat.add_assoc, ← hlength, slice_zero_length]

theorem length_trailerOf (platform : Platform) (hfits : payload.length ≤ slotLength) :
    (trailerOf platform payload slotLength).length = headerSize + slotLength + epilogueSize := by
  rw [trailerOf, List.length_append, List.length_append, length_buildHeader,
    length_buildSlot hfits, length_buildEpilogue]

theorem slices_trailer (platform : Platform) (start : Bytes) (hfits : payload.length ≤ slotLength) :
    slice (start ++ trailerOf platform payload slotLength) start.length headerSize =
        buildHeader platform payload slotLength ∧
      slice (start ++ trailerOf platform payload slotLength) (start.length + headerSize)
          slotLength = buildSlot payload slotLength ∧
      slice (start ++ trailerOf platform payload slotLength)
          (start.length + headerSize + slotLength) epilogueSize = buildEpilogue slotLength := by
  have hflatten : trailerOf platform payload slotLength =
      [buildHeader platform payload slotLength, buildSlot payload slotLength,
        buildEpilogue slotLength].flatten := by
    simp [trailerOf]
  have hplaced : Placed (start ++ trailerOf platform payload slotLength) start.length
      [buildHeader platform payload slotLength, buildSlot payload slotLength,
        buildEpilogue slotLength] := by
    rw [placed_iff, ← hflatten]
    exact slice_right _ _
  simpa only [Placed, length_buildHeader, length_buildSlot hfits, length_buildEpilogue, and_true]
    using hplaced

/-- The parser accepts a file exactly when it ends in a trailer of the writer's
layout around a payload that holds a configuration. -/
theorem parseFromFile_eq_ok (handle : ReadHandle file) {parsed : ParsedWindowsOfflineInstaller} :
    parseFromFile platform handle = .ok parsed ↔
      ∃ start payload config, file = start ++ trailerOf platform payload slotLength ∧
        payload.length ≤ slotLength ∧ parsePayload platform payload = .ok config ∧
        parsed = parsedOf platform start payload config := by
  simp only [parseFromFile, bind_eq_ok, require_eq_ok, pure_eq_ok, beq_iff_eq, decide_eq_true_eq]
  refine ⟨?_, ?_⟩
  · rintro ⟨-, hsmall, epilogue, hepilogue, length, hcheckEpilogue, -, hbounds, header, hheader,
      payloadLength, hcheckHeader, slot, hslot, _, hpadding, -, hhash, config, hconfig, rfl⟩
    rw [readExactly_eq handle _ (by omega)] at hepilogue
    obtain rfl := Except.ok.inj hepilogue
    obtain ⟨rfl, hepilogue⟩ :=
      (checkEpilogue_iff (by rw [length_slice]; omega)).mp hcheckEpilogue
    generalize hstart : file.length - headerSize - slotLength - epilogueSize = trailerStart at *
    rw [readExactly_eq handle _ (by omega)] at hheader hslot
    obtain rfl := Except.ok.inj hheader
    obtain rfl := Except.ok.inj hslot
    have hfits : payloadLength ≤ slotLength := (checkHeader_eq_ok.mp hcheckHeader).2.2.2.2.2.2
    have hslotLength : (slice file (trailerStart + headerSize) slotLength).length = slotLength := by
      rw [length_slice]
      omega
    have hpayload : (slice (slice file (trailerStart + headerSize) slotLength) 0
        payloadLength).length = payloadLength := by
      rw [length_slice]
      omega
    obtain ⟨-, -, hheader⟩ := (checkHeader_iff (by rw [length_slice]; omega) hpayload).mp
      ⟨hcheckHeader, hhash⟩
    have hslot := (validateZeroPadding_iff hslotLength hfits).mp hpadding
    have hposition : file.length - epilogueSize = trailerStart + headerSize + slotLength := by omega
    rw [hposition] at hepilogue
    have hparts := @file_parts file trailerStart (by omega)
    refine ⟨slice file 0 trailerStart, _, config, ?_, by omega, hconfig, ?_⟩
    · rw [trailerOf, ← hheader, ← hslot, ← hepilogue]
      exact hparts
    · have htrailerStart : (slice file 0 trailerStart).length = trailerStart := by
        rw [length_slice]
        omega
      rw [parsedOf, htrailerStart, hpayload, hhash]
  · rintro ⟨start, payload, config, rfl, hfits, hconfig, rfl⟩
    obtain ⟨hheader, hslot, hepilogue⟩ := slices_trailer platform start hfits
    have hlength := length_trailerOf platform hfits
    generalize hfile : start ++ trailerOf platform payload slotLength = file at *
    have hsize : file.length = start.length + (headerSize + slotLength + epilogueSize) := by
      rw [← hfile, List.length_append, hlength]
    have hstart : file.length - headerSize - slotLength - epilogueSize = start.length := by omega
    have hposition : file.length - epilogueSize = start.length + headerSize + slotLength := by omega
    have hpayload : slice (buildSlot payload slotLength) 0 payload.length = payload := by
      rw [buildSlot_eq hfits]
      exact slice_between [] payload _
    obtain ⟨hcheckHeader, hhash⟩ := (checkHeader_iff (length_buildHeader payload slotLength) rfl).mpr
      ⟨rfl, hfits, rfl⟩
    have hpadding := (@validateZeroPadding_iff _ payload.length () (length_buildSlot hfits) hfits).mpr
      (by rw [hpayload])
    refine ⟨(), by omega, buildEpilogue slotLength, ?_, slotLength,
      (checkEpilogue_iff (length_buildEpilogue slotLength)).mpr ⟨rfl, rfl⟩, (), by omega,
      buildHeader platform payload slotLength, ?_, payload.length, hcheckHeader,
      buildSlot payload slotLength, ?_, (), hpadding, (), ?_, config, ?_, ?_⟩
    · rw [readExactly_eq handle _ (by omega), hposition, hepilogue]
    · rw [readExactly_eq handle _ (by omega), hstart, hheader]
    · rw [readExactly_eq handle _ (by omega), hstart, hslot]
    · rw [hpayload, hhash]
    · rw [hpayload, hconfig]
    · rw [hstart, ← hhash, parsedOf]

/-! ## Round trip, layout and overlay -/

theorem serializePayload_eq_ok :
    serializePayload platform config = .ok payload ↔
      config.valid platform.parseUrl = true ∧ payload = platform.stringify config.toJson ∧
        payload.length ≤ slotLength := by
  unfold serializePayload
  cases hvalid : config.valid platform.parseUrl with
  | false => simp
  | true =>
      dsimp only
      split
      · contradiction
      split
      · rename_i hlong
        refine ⟨nofun, ?_⟩
        rintro ⟨-, rfl, hfits⟩
        omega
      · rename_i hshort
        refine ⟨?_, ?_⟩
        · intro hok
          obtain rfl := Except.ok.inj hok
          exact ⟨rfl, rfl, by omega⟩
        · rintro ⟨-, rfl, -⟩
          rfl

theorem serialize_eq_ok {trailer : Bytes} :
    serialize platform config = .ok trailer ↔
      config.valid platform.parseUrl = true ∧
        (platform.stringify config.toJson).length ≤ slotLength ∧
        trailer = trailerOf platform (platform.stringify config.toJson) slotLength := by
  simp only [serialize, bind_eq_ok, serializePayload_eq_ok]
  refine ⟨?_, ?_⟩
  · rintro ⟨payload, ⟨hvalid, rfl, hfits⟩, htrailer⟩
    rw [buildTrailer, if_neg (by omega)] at htrailer
    exact ⟨hvalid, hfits, (Except.ok.inj htrailer).symm⟩
  · rintro ⟨hvalid, hfits, rfl⟩
    refine ⟨_, ⟨hvalid, rfl, hfits⟩, ?_⟩
    rw [buildTrailer, if_neg (by omega)]

/-- Where JSON gives the value back, the payload gives the configuration back. -/
theorem parsePayload_stringify (hvalid : config.valid platform.parseUrl = true)
    (hround : platform.parseJson (platform.stringify config.toJson) = .ok config.toJson) :
    parsePayload platform (platform.stringify config.toJson) = .ok config :=
  parsePayload_eq_ok.mpr ⟨_, hround, parseConfig_toJson hvalid⟩

variable {writer : WriteHandle}

theorem writes_eq {start old : Bytes} (hold : old.length ≤ slotLength)
    (hfits : payload.length ≤ slotLength)
    (hheader : writeExactly writer (buildHeader platform payload slotLength) start.length
      "trailer header" (start ++ trailerOf platform old slotLength) = .ok header)
    (hslot : writeExactly writer (buildSlot payload slotLength) (start.length + headerSize)
      "payload slot" header = .ok slot)
    (hepilogue : writeExactly writer (buildEpilogue slotLength)
      (start.length + headerSize + slotLength) "trailer epilogue" slot = .ok output) :
    output = start ++ trailerOf platform payload slotLength := by
  have holdLength := length_trailerOf platform hold
  have hnewLength := length_trailerOf platform hfits
  have hheaderLength := @length_buildHeader platform payload slotLength
  have hslotLength := length_buildSlot hfits
  have hepilogueLength := length_buildEpilogue slotLength
  have hfile : (start ++ trailerOf platform old slotLength).length =
      start.length + (headerSize + slotLength + epilogueSize) := by
    rw [List.length_append, holdLength]
  obtain rfl := writeExactly_eq_ok (by omega) hheader
  have hfile₁ := (@length_patch UInt8 _ (buildHeader platform payload slotLength) start.length
    (by omega)).trans hfile
  obtain rfl := writeExactly_eq_ok (by omega) hslot
  have hfile₂ := (@length_patch UInt8 _ (buildSlot payload slotLength) (start.length + headerSize)
    (by omega)).trans hfile₁
  obtain rfl := writeExactly_eq_ok (by omega) hepilogue
  have hfirst := @patch_patch UInt8 (start ++ trailerOf platform old slotLength)
    (buildHeader platform payload slotLength) (buildSlot payload slotLength) start.length (by omega)
  have hsecond := @patch_patch UInt8 (start ++ trailerOf platform old slotLength)
    (buildHeader platform payload slotLength ++ buildSlot payload slotLength)
    (buildEpilogue slotLength) start.length (by rw [List.length_append]; omega)
  rw [hheaderLength] at hfirst
  rw [List.length_append, hheaderLength, hslotLength, ← Nat.add_assoc] at hsecond
  rw [hfirst, hsecond]
  have hpatch := @patch_between UInt8 start [] (trailerOf platform old slotLength)
    (trailerOf platform payload slotLength) (by rw [holdLength, hnewLength])
  simpa only [List.append_nil, trailerOf] using hpatch

theorem applyOverlay_eq_ok {template : Bytes} {reader : ReadHandle template}
    (hoverlay : applyOverlay platform reader writer config = .ok output) :
    ∃ start parsedTemplate, parseFromFile platform reader = .ok parsedTemplate ∧
      parsedTemplate.trailerStart = start.length ∧ start <+: template ∧
      template.length = output.length ∧ config.valid platform.parseUrl = true ∧
      (platform.stringify config.toJson).length ≤ slotLength ∧
      output = start ++ trailerOf platform (platform.stringify config.toJson) slotLength := by
  obtain ⟨payload, hpayload, hoverlay⟩ := bind_eq_ok.mp hoverlay
  obtain ⟨parsedTemplate, hparsed, hoverlay⟩ := bind_eq_ok.mp hoverlay
  obtain ⟨header, hheader, hoverlay⟩ := bind_eq_ok.mp hoverlay
  obtain ⟨slot, hslot, hepilogue⟩ := bind_eq_ok.mp hoverlay
  obtain ⟨hvalid, rfl, hfits⟩ := serializePayload_eq_ok.mp hpayload
  obtain ⟨start, old, oldConfig, rfl, hold, -, rfl⟩ := (parseFromFile_eq_ok reader).mp hparsed
  have houtput := writes_eq hold hfits hheader hslot hepilogue
  refine ⟨start, _, hparsed, rfl, List.prefix_append _ _, ?_, hvalid, hfits, houtput⟩
  rw [houtput, List.length_append, List.length_append, length_trailerOf platform hold,
    length_trailerOf platform hfits]

/-- A configuration that can be serialized gets into every template that is accepted. -/
theorem exists_applyOverlay {template : Bytes} {reader : ReadHandle template}
    {parsedTemplate : ParsedWindowsOfflineInstaller} (hprogress : writer.Progresses)
    (hvalid : config.valid platform.parseUrl = true)
    (hfits : (platform.stringify config.toJson).length ≤ slotLength)
    (hparsed : parseFromFile platform reader = .ok parsedTemplate) :
    ∃ output, applyOverlay platform reader writer config = .ok output := by
  have hwrites := @exists_writeExactly writer hprogress
  obtain ⟨header, hheader⟩ := hwrites (buildHeader platform (platform.stringify config.toJson)
    slotLength) parsedTemplate.trailerStart "trailer header" template
  obtain ⟨slot, hslot⟩ := hwrites (buildSlot (platform.stringify config.toJson) slotLength)
    (parsedTemplate.trailerStart + parsedTemplate.headerSize) "payload slot" header
  obtain ⟨output, houtput⟩ := hwrites (buildEpilogue slotLength)
    (parsedTemplate.trailerStart + parsedTemplate.headerSize + slotLength) "trailer epilogue" slot
  refine ⟨output, bind_eq_ok.mpr ⟨_, serializePayload_eq_ok.mpr ⟨hvalid, rfl, hfits⟩, ?_⟩⟩
  exact bind_eq_ok.mpr ⟨_, hparsed, bind_eq_ok.mpr ⟨_, hheader, bind_eq_ok.mpr ⟨_, hslot, houtput⟩⟩⟩

/-- A configuration that JSON gives back: when it can be written, what is read
back behind any program, what a file that is accepted looks like, which overlays
succeed, and what an overlay changes. -/
theorem trailer_codec {config : Config}
    (hround : platform.parseJson (platform.stringify config.toJson) = .ok config.toJson) :
    ((∃ trailer, serialize platform config = .ok trailer) ↔
      config.valid platform.parseUrl = true ∧
        (platform.stringify config.toJson).length ≤ slotLength) ∧
    (∀ trailer, serialize platform config = .ok trailer →
      ∀ (start : Bytes) (handle : ReadHandle (start ++ trailer)),
        ∃ parsed, parseFromFile platform handle = .ok parsed ∧ parsed.config = config ∧
          parsed.trailerStart = start.length) ∧
    (∀ (file : Bytes) (handle : ReadHandle file) parsed,
      parseFromFile platform handle = .ok parsed →
        ∃ start payload, file = start ++ trailerOf platform payload slotLength ∧
          payload.length ≤ slotLength ∧ start.length = parsed.trailerStart ∧
          parsePayload platform payload = .ok parsed.config) ∧
    (∀ (template : Bytes) (reader : ReadHandle template) (writer : WriteHandle) parsedTemplate,
      parseFromFile platform reader = .ok parsedTemplate → writer.Progresses →
        config.valid platform.parseUrl = true →
          (platform.stringify config.toJson).length ≤ slotLength →
            ∃ output, applyOverlay platform reader writer config = .ok output) ∧
    (∀ (template : Bytes) (reader : ReadHandle template) (writer : WriteHandle) output,
      applyOverlay platform reader writer config = .ok output →
        output.length = template.length ∧
          ∃ parsedTemplate, parseFromFile platform reader = .ok parsedTemplate ∧
            output.take parsedTemplate.trailerStart = template.take parsedTemplate.trailerStart ∧
            ∀ handle : ReadHandle output, ∃ parsed, parseFromFile platform handle = .ok parsed ∧
              parsed.config = config ∧
              parsed.trailerStart = parsedTemplate.trailerStart) := by
  refine ⟨?_, ?_, ?_, ?_, ?_⟩
  · refine ⟨?_, fun hvalid => ⟨_, serialize_eq_ok.mpr ⟨hvalid.1, hvalid.2, rfl⟩⟩⟩
    rintro ⟨trailer, htrailer⟩
    obtain ⟨hvalid, hfits, -⟩ := serialize_eq_ok.mp htrailer
    exact ⟨hvalid, hfits⟩
  · intro trailer htrailer start handle
    obtain ⟨hvalid, hfits, rfl⟩ := serialize_eq_ok.mp htrailer
    refine ⟨_, (parseFromFile_eq_ok handle).mpr ⟨start, _, config, rfl, hfits, ?_, rfl⟩, rfl, rfl⟩
    exact parsePayload_stringify hvalid hround
  · intro file handle parsed hparsed
    obtain ⟨start, payload, found, hfile, hfits, hpayload, rfl⟩ :=
      (parseFromFile_eq_ok handle).mp hparsed
    exact ⟨start, payload, hfile, hfits, rfl, hpayload⟩
  · intro template reader writer parsedTemplate hparsed hprogress hvalid hfits
    exact exists_applyOverlay hprogress hvalid hfits hparsed
  · intro template reader writer output hoverlay
    obtain ⟨start, parsedTemplate, hparsed, hstart, hprefix, hlength, hvalid, hfits, rfl⟩ :=
      applyOverlay_eq_ok hoverlay
    refine ⟨hlength.symm, parsedTemplate, hparsed, ?_, ?_⟩
    · rw [hstart, List.take_left]
      exact List.prefix_iff_eq_take.mp hprefix
    · intro handle
      refine ⟨_, (parseFromFile_eq_ok handle).mpr ⟨start, _, config, rfl, hfits, ?_, rfl⟩, rfl,
        hstart.symm⟩
      exact parsePayload_stringify hvalid hround

/-! ## A configuration behind two bytes of a program -/

/-- A file that is read in one piece. -/
def ReadHandle.whole (file : Bytes) : ReadHandle file where
  bytesRead position length := min length (file.length - position)
  bytesRead_le _ _ := le_rfl
  bytesRead_pos position length hlength hposition := by omega

def lessonConfig : Config where
  apiUrl := "https://openpath.example".toList
  classroomId := "room_1".toList
  enrollmentToken := "ticket".toList
  enrollmentTokenExpiresAt := "2026-01-02T03:04:05.678Z".toList
  captivePortalDomains := ["portal.example".toList]
  options :=
    { approvedStudentBrowsers := ["Firefox".toList]
      installFirefoxIfMissing := true
      enforceManagedBrowserBoundary := true
      appControlProfile := some .managedBrowserCompatibility
      approvedApplicationCatalog := none }

/-- The configuration as JSON. -/
def lessonPayload : Bytes :=
  ["\x7b\"schemaVersion\":1,\"apiUrl\":\"https://openpath.example\",\"classroomId",
    "\":\"room_1\",\"enrollmentToken\":\"ticket\",\"enrollmentTokenExpiresAt\":\"20",
    "26-01-02T03:04:05.678Z\",\"captivePortalDomains\":[\"portal.example\"],\"optio",
    "ns\":\x7b\"approvedStudentBrowsers\":[\"Firefox\"],\"installFirefoxIfMissing\"",
    ":true,\"enforceManagedBrowserBoundary\":true,\"appControlProfile\":\"ManagedBr",
    "owserCompatibility\"\x7d\x7d"].flatMap latin1

def lessonDigest : Bytes :=
  [ 0x07, 0xb2, 0xeb, 0x54, 0x9f, 0xef, 0x51, 0x16, 0x47, 0xc3, 0xab, 0xbe, 0x36, 0x8d, 0x5e,
    0x9f, 0x5d, 0x3e, 0x34, 0x27, 0x2e, 0x93, 0xb1, 0x43, 0x7f, 0x24, 0x4c, 0x07, 0xea, 0xf3,
    0x21, 0x0a ]

/-- A platform on which this configuration and its payload are what they are. -/
def lessonPlatform : Platform where
  sha256 bytes := if bytes = lessonPayload then lessonDigest else alloc 32
  length_sha256 bytes := by
    split
    · rfl
    · rfl
  stringify _ := lessonPayload
  parseJson bytes :=
    if bytes = lessonPayload then .ok lessonConfig.toJson else .error "Unexpected token"
  parseUrl value :=
    if value = lessonConfig.apiUrl then
      some { protocol := "https:".toList, hostname := "openpath.example".toList, username := [],
             password := [], hash := [] }
    else none

/-- A file that takes at most 1000 bytes at a time. -/
def WriteHandle.inPieces : WriteHandle where
  bytesWritten _ length := min length 1000
  bytesWritten_le _ length := Nat.min_le_left length 1000

/-- The trailer of the configuration is read, and overwritten by itself. -/
theorem trailer_codec_lesson :
    ∃ trailer parsed output, serialize lessonPlatform lessonConfig = .ok trailer ∧
      parseFromFile lessonPlatform (ReadHandle.whole ([0x4d, 0x5a] ++ trailer)) = .ok parsed ∧
      parsed.trailerStart = 2 ∧
      applyOverlay lessonPlatform (ReadHandle.whole ([0x4d, 0x5a] ++ trailer))
        WriteHandle.inPieces lessonConfig = .ok output ∧
      output.length = ([0x4d, 0x5a] ++ trailer).length := by
  have hround : lessonPlatform.parseJson (lessonPlatform.stringify lessonConfig.toJson) =
      .ok lessonConfig.toJson := by
    simp only [lessonPlatform, if_true]
  obtain ⟨hserializes, hreads, -, happlies, hoverlays⟩ := trailer_codec hround
  have hvalid : lessonConfig.valid lessonPlatform.parseUrl = true := by
    unfold lessonConfig lessonPlatform
    repeat rewrite [String.toList_ofList]
    decide
  have hfits : (lessonPlatform.stringify lessonConfig.toJson).length ≤ slotLength := by
    simp only [lessonPlatform, lessonPayload, latin1, List.flatMap_cons, List.flatMap_nil]
    repeat rewrite [String.toList_ofList]
    decide +kernel
  have hprogress : WriteHandle.inPieces.Progresses :=
    fun _ _ hlength => Nat.lt_min.mpr ⟨hlength, by decide⟩
  obtain ⟨trailer, htrailer⟩ := hserializes.mpr ⟨hvalid, hfits⟩
  obtain ⟨parsed, hparsed, -, hstart⟩ :=
    hreads trailer htrailer [0x4d, 0x5a] (ReadHandle.whole _)
  obtain ⟨output, houtput⟩ := happlies _ _ WriteHandle.inPieces _ hparsed hprogress hvalid hfits
  exact ⟨trailer, parsed, output, htrailer, hparsed, hstart, houtput,
    (hoverlays _ _ _ _ houtput).1⟩

end OpenPath.Api.OfflineInstallerTrailer
