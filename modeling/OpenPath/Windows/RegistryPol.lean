/-
# The codec of `Registry.pol`

The policies of a machine are a file of records: a header, and then for each value its
key and name as UTF-16 with a terminator, its type, the size of its data and the data,
in brackets and with semicolons between them. Names hold no terminator, but data may hold
anything, delimiters too. There is no count of the records: a file ends where a record
ends.

What is read is a concatenation of whole records and nothing else. What is written is
read back, with the replacement of surrogates that have no partner; and of a file that
was cut off either nothing is read, or the records before a cut between two of them.
-/

import OpenPath.Foundation.Readers
import OpenPath.Text.DotNet
import OpenPath.Text.Utf16
import OpenPath.Text.Utf8

namespace OpenPath.Windows.RegistryPol

open Foundation

/-- An entry, as the reader gives it. -/
structure Entry where
  key : Utf16
  valueName : Utf16
  type : UInt32
  data : Bytes
  deriving DecidableEq

inductive PolError
  | header
  | truncatedString
  | expected (delimiter : Char) (position : Nat)
  | truncatedType
  | truncatedSize
  | truncatedData
  deriving DecidableEq

/-! ## Reading -/

/-- A delimiter is a character of one byte. -/
def delimiterBytes (delimiter : Char) : Bytes := [UInt8.ofNat delimiter.toNat, 0]

/-- `Assert-OpenPathRegistryPolDelimiter`, and the step behind it. -/
def assertDelimiter (expected : Char) : Reader PolError UInt8 Unit :=
  .front (fun rest => if rest.take 2 = delimiterBytes expected then some ((), 2) else none)
    fun cursor => .expected expected cursor.position

/-- The bytes before a code unit of zero. -/
def untilTerminator : Bytes → Option Bytes
  | lower :: upper :: rest =>
      if lower = 0 ∧ upper = 0 then some []
      else (untilTerminator rest).map fun bytes => lower :: upper :: bytes
  | _ => none

/-- `Read-OpenPathRegistryPolString` -/
def readString : Reader PolError UInt8 Utf16 :=
  .front
    (fun rest => (untilTerminator rest).map fun bytes =>
      (Utf16.getString bytes, bytes.length + 2))
    fun _ => .truncatedString

/-- `[BitConverter]::ToUInt32`, where there are four bytes. -/
def readUInt32 (failure : PolError) : Reader PolError UInt8 UInt32 :=
  .front
    (fun rest =>
      if 4 ≤ rest.length then some (UInt32.ofNat (ofLittleEndian (rest.take 4)), 4) else none)
    fun _ => failure

/-- The data and the bracket behind it. -/
def readData (size : Nat) : Reader PolError UInt8 Bytes := fun cursor =>
  if cursor.rest.length < size + 2 then .error .truncatedData
  else
    ((assertDelimiter ']').run (cursor.advance size)).map fun result =>
      (cursor.rest.take size, result.2)

def readEntry : Reader PolError UInt8 Entry := do
  assertDelimiter '['
  let key ← readString
  assertDelimiter ';'
  let valueName ← readString
  assertDelimiter ';'
  let type ← readUInt32 .truncatedType
  assertDelimiter ';'
  let size ← readUInt32 .truncatedSize
  assertDelimiter ';'
  let data ← readData size.toNat
  return { key, valueName, type, data }

/-! ## Writing -/

def signature : Bytes := Utf8.encode "PReg".toList

def header : Bytes := signature ++ littleEndian 4 1

/-- What `Write-OpenPathRegistryPolFile` writes for an entry. -/
def entryBytes (entry : Entry) : Bytes :=
  delimiterBytes '[' ++ Utf16.getBytes (entry.key ++ [0]) ++ delimiterBytes ';' ++
    Utf16.getBytes (entry.valueName ++ [0]) ++ delimiterBytes ';' ++
    littleEndian 4 entry.type.toNat ++ delimiterBytes ';' ++
    littleEndian 4 entry.data.length ++ delimiterBytes ';' ++ entry.data ++ delimiterBytes ']'

/-- The bytes that the stream collects. -/
def content (entries : List Entry) : Bytes := header ++ entries.flatMap entryBytes

/-! ## Records -/

/-- A record: names without a terminator in them, and the size of the data. -/
def IsRecord (raw : Bytes) (entry : Entry) : Prop :=
  ∃ key valueName : Utf16, 0 ∉ key ∧ 0 ∉ valueName ∧ entry.data.length < 2 ^ 32 ∧
    entry.key = Utf16.repair key ∧ entry.valueName = Utf16.repair valueName ∧
    raw = delimiterBytes '[' ++ (Utf16.toBytes (key ++ [0]) ++ (delimiterBytes ';' ++
      (Utf16.toBytes (valueName ++ [0]) ++ (delimiterBytes ';' ++
      (littleEndian 4 entry.type.toNat ++ (delimiterBytes ';' ++
      (littleEndian 4 entry.data.length ++ (delimiterBytes ';' ++
      (entry.data ++ delimiterBytes ']')))))))))

theorem describes_assertDelimiter (expected : Char) :
    Describes (assertDelimiter expected) fun raw _ => raw = delimiterBytes expected := by
  refine .front fun rest value count => ?_
  have hlength : (delimiterBytes expected).length = 2 := rfl
  constructor
  · intro h
    split at h
    · next htake =>
        cases h
        exact ⟨delimiterBytes expected, rfl, rfl, htake ▸ List.take_prefix 2 rest⟩
    · cases h
  · rintro ⟨_, rfl, rfl, hstarts⟩
    rw [if_pos (by rw [← hlength, ← List.prefix_iff_eq_take.mp hstarts]), hlength]

theorem untilTerminator_eq_some {rest bytes : Bytes} :
    untilTerminator rest = some bytes ↔
      ∃ name : Utf16, 0 ∉ name ∧ bytes = Utf16.toBytes name ∧ bytes ++ [0, 0] <+: rest := by
  induction rest using untilTerminator.induct generalizing bytes with
  | case1 lower upper rest hzero =>
      obtain ⟨rfl, rfl⟩ := hzero
      rw [untilTerminator, if_pos ⟨rfl, rfl⟩, Option.some.injEq]
      constructor
      · rintro rfl
        exact ⟨[], List.not_mem_nil, rfl, rest, rfl⟩
      · rintro ⟨name, hname, rfl, hstarts⟩
        cases name with
        | nil => rfl
        | cons unit name =>
            rw [Utf16.toBytes_cons, List.append_assoc] at hstarts
            have hunit := (List.prefix_append (Utf16.unitBytes unit) _).trans hstarts
            rw [Utf16.unitBytes_eq, List.cons_prefix_cons, List.cons_prefix_cons] at hunit
            have hzero : unit = 0 := by
              rw [← Utf16.ofNat_unitBytes unit, Utf16.unitBytes_eq, hunit.1, hunit.2.1]
              rfl
            exact absurd (hzero ▸ List.mem_cons_self) hname
  | case2 lower upper rest hzero ih =>
      rw [untilTerminator, if_neg hzero, Option.map_eq_some_iff]
      constructor
      · rintro ⟨tail, htail, rfl⟩
        obtain ⟨name, hname, rfl, hstarts⟩ := ih.mp htail
        refine ⟨UInt16.ofNat (ofLittleEndian [lower, upper]) :: name, ?_, ?_, ?_⟩
        · refine List.not_mem_cons_of_ne_of_not_mem ?_ hname
          exact fun h => hzero ((Utf16.ofNat_eq_zero_iff lower upper).mp h.symm)
        · rw [Utf16.toBytes_cons, Utf16.unitBytes_ofNat]
          rfl
        · exact (List.prefix_cons_inj _).mpr ((List.prefix_cons_inj _).mpr hstarts)
      · rintro ⟨name, hname, rfl, hstarts⟩
        cases name with
        | nil =>
            have hzeros : [0, 0] <+: lower :: upper :: rest := hstarts
            rw [List.cons_prefix_cons, List.cons_prefix_cons] at hzeros
            exact absurd ⟨hzeros.1.symm, hzeros.2.1.symm⟩ hzero
        | cons unit name =>
            rw [Utf16.toBytes_cons, Utf16.unitBytes_eq] at hstarts ⊢
            simp only [List.cons_append, List.nil_append, List.cons_prefix_cons] at hstarts
            obtain ⟨rfl, rfl, hstarts⟩ := hstarts
            exact ⟨_, ih.mpr ⟨name, (List.not_mem_of_not_mem_cons hname), rfl, hstarts⟩, rfl⟩
  | case3 rest hshort =>
      rw [untilTerminator]
      · refine ⟨fun h => absurd h (Option.some_ne_none _).symm, ?_⟩
        rintro ⟨name, -, rfl, tail, rfl⟩
        cases name with
        | nil => exact (hshort 0 0 tail rfl).elim
        | cons unit name =>
            rw [Utf16.toBytes_cons, Utf16.unitBytes_eq] at hshort
            exact (hshort _ _ _ rfl).elim
      · exact hshort

theorem toBytes_concat_zero (name : Utf16) :
    Utf16.toBytes (name ++ [0]) = Utf16.toBytes name ++ [0, 0] := by
  rw [Utf16.toBytes_append]
  rfl

theorem describes_readString :
    Describes readString fun raw value =>
      ∃ name : Utf16, 0 ∉ name ∧ raw = Utf16.toBytes (name ++ [0]) ∧
        value = Utf16.repair name := by
  refine .front fun rest value count => ?_
  rw [Option.map_eq_some_iff]
  constructor
  · rintro ⟨bytes, hbytes, heq⟩
    obtain ⟨name, hname, rfl, hstarts⟩ := untilTerminator_eq_some.mp hbytes
    rw [Prod.mk.injEq, Utf16.getString_toBytes] at heq
    refine ⟨_, ⟨name, hname, rfl, heq.1.symm⟩, ?_, ?_⟩
    · rw [← heq.2, toBytes_concat_zero, List.length_append]
      rfl
    · rwa [toBytes_concat_zero]
  · rintro ⟨_, ⟨name, hname, rfl, rfl⟩, rfl, hstarts⟩
    rw [toBytes_concat_zero] at hstarts ⊢
    refine ⟨Utf16.toBytes name, untilTerminator_eq_some.mpr ⟨name, hname, rfl, hstarts⟩, ?_⟩
    rw [Utf16.getString_toBytes, List.length_append]
    rfl

theorem describes_readUInt32 (failure : PolError) :
    Describes (readUInt32 failure) fun raw value => raw = littleEndian 4 value.toNat := by
  refine .front fun rest value count => ?_
  constructor
  · intro h
    split at h
    · next hlength =>
        cases h
        have hfour : (rest.take 4).length = 4 := by
          rw [List.length_take, Nat.min_eq_left hlength]
        have hbound : ofLittleEndian (rest.take 4) < 2 ^ 32 := by
          have hlt := ofLittleEndian_lt (rest.take 4)
          rw [hfour] at hlt
          exact hlt
        have hbytes := littleEndian_ofLittleEndian (rest.take 4)
        rw [hfour] at hbytes
        refine ⟨rest.take 4, ?_, hfour, List.take_prefix 4 rest⟩
        rw [UInt32.toNat_ofNat', Nat.mod_eq_of_lt hbound, hbytes]
    · cases h
  · rintro ⟨_, rfl, rfl, hstarts⟩
    have hlength := hstarts.length_le
    rw [List.prefix_iff_eq_take] at hstarts
    rw [length_littleEndian] at hstarts hlength ⊢
    rw [if_pos hlength, ← hstarts, ofLittleEndian_littleEndian value.toNat_lt,
      UInt32.ofNat_toNat]

theorem describes_readData (size : Nat) :
    Describes (readData size) fun raw value =>
      raw = value ++ delimiterBytes ']' ∧ value.length = size := by
  intro cursor value after
  rw [StateT.run, readData]
  by_cases hshort : cursor.rest.length < size + 2
  · rw [if_pos hshort]
    constructor
    · intro h
      cases h
    · rintro ⟨_, ⟨rfl, rfl⟩, hrest, -⟩
      have hlength : (delimiterBytes ']').length = 2 := rfl
      rw [hrest, List.length_append, List.length_append, hlength] at hshort
      omega
  · rw [if_neg hshort, map_eq_ok]
    constructor
    · rintro ⟨⟨⟨⟩, middle⟩, hread, heq⟩
      cases heq
      obtain ⟨raw, rfl, hrest, hposition⟩ := (describes_assertDelimiter ']' _ _ _).mp hread
      have hsize : (cursor.rest.take size).length = size := by
        rw [List.length_take]
        omega
      refine ⟨_, ⟨rfl, hsize⟩, ?_, ?_⟩
      · rw [List.append_assoc, ← hrest]
        exact (List.take_append_drop size cursor.rest).symm
      · rw [hposition, List.length_append, hsize]
        exact Nat.add_assoc _ _ _
    · rintro ⟨_, ⟨rfl, rfl⟩, hrest, hposition⟩
      rw [List.append_assoc] at hrest
      refine ⟨((), after), (describes_assertDelimiter ']' _ _ _).mpr ⟨_, rfl, ?_, ?_⟩, ?_⟩
      · rw [Cursor.advance, hrest, List.drop_left]
      · rw [hposition, List.length_append, ← Nat.add_assoc]
        rfl
      · rw [hrest, List.take_left]

theorem describes_readEntry : Describes readEntry IsRecord := by
  have hdelimiter := describes_assertDelimiter
  have hread := (hdelimiter '[').bind fun _ => describes_readString.bind fun key =>
    (hdelimiter ';').bind fun _ => describes_readString.bind fun valueName =>
    (hdelimiter ';').bind fun _ => (describes_readUInt32 .truncatedType).bind fun type =>
    (hdelimiter ';').bind fun _ => (describes_readUInt32 .truncatedSize).bind fun size =>
    (hdelimiter ';').bind fun _ => (describes_readData size.toNat).bind fun data =>
      Describes.pure (ε := PolError) (α := UInt8) ({ key, valueName, type, data } : Entry)
  refine hread.congr fun raw entry => ?_
  constructor
  · rintro ⟨_, _, _, rfl, rfl, _, key, _, rfl, ⟨name, hname, rfl, rfl⟩, _, _, _, rfl, rfl,
      _, valueName, _, rfl, ⟨other, hother, rfl, rfl⟩, _, _, _, rfl, rfl, _, type, _, rfl, rfl,
      _, _, _, rfl, rfl, _, size, _, rfl, rfl, _, _, _, rfl, rfl, _, data, _, rfl,
      ⟨rfl, hsize⟩, rfl, rfl⟩
    refine ⟨name, other, hname, hother, ?_, rfl, rfl, ?_⟩
    · exact hsize ▸ size.toNat_lt
    · rw [hsize, List.append_nil]
  · rintro ⟨name, other, hname, hother, hsize, hkey, hvalueName, rfl⟩
    obtain ⟨key, valueName, type, data⟩ := entry
    cases hkey
    cases hvalueName
    refine ⟨_, (), _, rfl, rfl, _, _, _, rfl, ⟨name, hname, rfl, rfl⟩, _, (), _, rfl, rfl,
      _, _, _, rfl, ⟨other, hother, rfl, rfl⟩, _, (), _, rfl, rfl, _, type, _, rfl, rfl,
      _, (), _, rfl, rfl, _, UInt32.ofNat data.length, _, rfl, ?_, _, (), _, rfl, rfl,
      _, data, [], (List.append_nil _).symm, ⟨rfl, ?_⟩, rfl, rfl⟩
    all_goals rw [UInt32.toNat_ofNat', Nat.mod_eq_of_lt hsize]

variable {entry : Entry}

theorem IsRecord.ne_nil {raw : Bytes} (h : IsRecord raw entry) : raw ≠ [] := by
  obtain ⟨key, valueName, -, -, -, -, -, rfl⟩ := h
  exact List.cons_ne_nil _ _

def entryReader : RecordReader PolError UInt8 Entry where
  read := readEntry
  record := IsRecord
  describes := describes_readEntry
  record_ne_nil := IsRecord.ne_nil

/-! ## Files -/

/-- `[System.Text.Encoding]::ASCII.GetString` -/
def asciiString (bytes : Bytes) : Text :=
  bytes.map fun byte => if byte < 0x80 then Char.ofNat byte.toNat else '?'

/-- The comparison with `-ne` does not look at capitals. -/
def hasHeader (bytes : Bytes) : Bool :=
  8 ≤ bytes.length && DotNet.equalsIgnoreCase (asciiString (bytes.take 4)) "PReg".toList &&
    ofLittleEndian (slice bytes 4 4) = 1

/-- `ConvertFrom-OpenPathRegistryPolBytes` -/
def convertFrom (bytes : Bytes) : Except PolError (List Entry) :=
  if hasHeader bytes then entryReader.readAll ⟨8, bytes.drop 8⟩ else .error .header

theorem convertFrom_of_not_hasHeader {bytes : Bytes} (h : hasHeader bytes = false) :
    convertFrom bytes = .error .header := by
  rw [convertFrom, h]
  rfl

theorem length_header : header.length = 8 := rfl

theorem hasHeader_append (body : Bytes) : hasHeader (header ++ body) = true := by
  have hlength : 8 ≤ (header ++ body).length := by
    rw [List.length_append, length_header]
    omega
  have hfour : (header ++ body).take 4 = signature := rfl
  have hversion : slice (header ++ body) 4 4 = littleEndian 4 1 := rfl
  rw [hasHeader, hfour, hversion, decide_eq_true hlength]
  decide

theorem convertFrom_append (body : Bytes) :
    convertFrom (header ++ body) = entryReader.readAll ⟨8, body⟩ := by
  rw [convertFrom, if_pos (hasHeader_append body), ← length_header, List.drop_left]

variable {entries : List Entry}

/-- Whole records behind the header, and nothing else. -/
theorem convertFrom_eq_ok {body : Bytes} :
    convertFrom (header ++ body) = .ok entries ↔
      ∃ raws, body = raws.flatten ∧ List.Forall₂ IsRecord raws entries := by
  rw [convertFrom_append]
  exact entryReader.readAll_eq_ok

/-! ## Written files -/

/-- An entry whose names hold no terminator, and whose data fits the field for its size. -/
structure Entry.Plain (entry : Entry) : Prop where
  key : 0 ∉ entry.key
  valueName : 0 ∉ entry.valueName
  data : entry.data.length < 2 ^ 32

/-- What an entry is after it was encoded. -/
def Entry.repaired (entry : Entry) : Entry :=
  { entry with key := Utf16.repair entry.key, valueName := Utf16.repair entry.valueName }

theorem Entry.repaired_eq_self (hkey : Utf16.WellFormed entry.key)
    (hvalueName : Utf16.WellFormed entry.valueName) : entry.repaired = entry := by
  rw [repaired, hkey, hvalueName]

theorem isRecord_entryBytes (h : entry.Plain) : IsRecord (entryBytes entry) entry.repaired := by
  refine ⟨Utf16.repair entry.key, Utf16.repair entry.valueName,
    Utf16.zero_not_mem_repair h.key, Utf16.zero_not_mem_repair h.valueName, h.data,
    (Utf16.wellFormed_repair _).symm, (Utf16.wellFormed_repair _).symm, ?_⟩
  simp only [entryBytes, Utf16.getBytes, Utf16.repair_concat_zero, List.append_assoc,
    Entry.repaired]

section

variable (h : ∀ entry ∈ entries, entry.Plain)
include h

theorem records_content :
    List.Forall₂ IsRecord (entries.map entryBytes) (entries.map Entry.repaired) := by
  rw [List.forall₂_map_left_iff, List.forall₂_map_right_iff, List.forall₂_same]
  exact fun entry hentry => isRecord_entryBytes (h entry hentry)

/-- What was written is read back. -/
theorem convertFrom_content : convertFrom (content entries) = .ok (entries.map Entry.repaired) :=
  convertFrom_eq_ok.mpr ⟨_, List.flatMap_def, records_content h⟩

/-- A written file that was cut off gives nothing, or the entries before a cut between two of
them. -/
theorem convertFrom_take {n : Nat} {result : List Entry}
    (hresult : convertFrom ((content entries).take n) = .ok result) :
    ∃ count, (content entries).take n = content (entries.take count) ∧
      result = (entries.take count).map Entry.repaired := by
  have hlong : 8 ≤ n := by
    by_contra hshort
    have hheader : hasHeader ((content entries).take n) = false := by
      have hlength : ¬ 8 ≤ ((content entries).take n).length := by
        rw [List.length_take]
        omega
      rw [hasHeader, decide_eq_false hlength, Bool.false_and, Bool.false_and]
    rw [convertFrom_of_not_hasHeader hheader] at hresult
    cases hresult
  have hcut : (content entries).take n =
      header ++ (entries.flatMap entryBytes).take (n - 8) := by
    rw [content, List.take_append, length_header, List.take_of_length_le]
    rwa [length_header]
  rw [hcut] at hresult ⊢
  obtain ⟨raws, hbody, hrecords⟩ := convertFrom_eq_ok.mp hresult
  have hstarts : raws.flatten <+: (entries.map entryBytes).flatten := by
    rw [← hbody, ← List.flatMap_def]
    exact List.take_prefix _ _
  obtain ⟨hraws, hvalues⟩ := entryReader.eq_take_of_prefix (records_content h) hrecords hstarts
  refine ⟨raws.length, ?_, ?_⟩
  · rw [hbody, content, List.flatMap_def, List.map_take, ← hraws]
  · rw [List.map_take]
    exact hvalues

end

end OpenPath.Windows.RegistryPol
