import HandheldHost.Hexdump
import HandheldHost.Proofs.Text.Hex

/-!
# Hexdumps, line by line

A hexdump is the lines of its octets, sixteen to a line but for the last, and a single
line without octets if there are none.  Nothing is lost: the first address stands in
front, and after it every octet is behind a blank, so a reader that leaves out all
further addresses gets them back.

* `Hexdump.lines_eq` -- the lines, numbered.
* `Hexdump.read?` -- the reader.
* `Hexdump.readOctets_lines` -- what it finds in the lines.
* `Hexdump.render_is_faithful` -- both, for any memory.
-/

namespace HandheldHost.Hexdump

open Text

/-! ## Lines -/

/-- Sixteen octets or fewer are one line. -/
theorem lines_of_le (address : UInt16) {bytes : List UInt8} (few : bytes.length ≤ 16) :
    lines address bytes = line address bytes := by
  have none_left : bytes.drop 16 = [] := List.drop_eq_nil_iff.mpr few
  rw [lines]
  split
  · rfl
  · rename_i long
    exact absurd (none_left.symm.trans long) (List.cons_ne_nil _ _).symm

/-- Of more octets the first sixteen are a line, and the others the lines from the
sixteenth address on. -/
theorem lines_of_gt (address : UInt16) {bytes : List UInt8} (many : 16 < bytes.length) :
    lines address bytes =
      line address (bytes.take 16) ++ lines (address + 16) (bytes.drop 16) := by
  rw [lines]
  split
  · rename_i short
    exact absurd (List.drop_eq_nil_iff.mp short) (Nat.not_le.mpr many)
  · rename_i long
    rw [long]

/-- What holds of a single line, and of more octets if it holds of those after the first
sixteen, holds of all octets. -/
theorem lines_induction {P : UInt16 → List UInt8 → Prop}
    (last : ∀ address bytes, bytes.length ≤ 16 → P address bytes)
    (more : ∀ address bytes, 16 < bytes.length → P (address + 16) (bytes.drop 16) →
      P address bytes) (address : UInt16) (bytes : List UInt8) : P address bytes := by
  induction address, bytes using lines.induct with
  | case1 address bytes short => exact last address bytes (List.drop_eq_nil_iff.mp short)
  | case2 address bytes b rest long ih =>
    have many : 16 < bytes.length := by
      have dropped := congrArg List.length long
      rw [List.length_drop, List.length_cons] at dropped
      omega
    exact more address bytes many (long ▸ ih)

/-- How many lines so many octets take. -/
def lineCount (n : Nat) : Nat := max 1 ((n + 15) / 16)

theorem lineCount_of_le {n : Nat} (few : n ≤ 16) : lineCount n = 1 := by
  rw [lineCount]
  omega

theorem lineCount_of_gt {n : Nat} (many : 16 < n) : lineCount n = lineCount (n - 16) + 1 := by
  rw [lineCount, lineCount]
  omega

/-- Line `j` of the octets from an address on. -/
def lineAt (address : UInt16) (bytes : List UInt8) (j : Nat) : List Char :=
  line (address + UInt16.ofNat (16 * j)) ((bytes.drop (16 * j)).take 16)

theorem lineAt_zero (address : UInt16) (bytes : List UInt8) :
    lineAt address bytes 0 = line address (bytes.take 16) := by
  simp [lineAt]

/-- Every further line is a line of what follows the first sixteen octets. -/
theorem lineAt_succ (address : UInt16) (bytes : List UInt8) (j : Nat) :
    lineAt address bytes (j + 1) = lineAt (address + 16) (bytes.drop 16) j := by
  have place : address + UInt16.ofNat (16 * (j + 1)) = address + 16 + UInt16.ofNat (16 * j) := by
    rw [Nat.mul_succ, UInt16.ofNat_add, UInt16.add_comm (UInt16.ofNat _), UInt16.add_assoc]
    rfl
  rw [lineAt, lineAt, place, List.drop_drop, Nat.mul_succ, Nat.add_comm 16]

/-- The lines of a hexdump in order. -/
theorem lines_eq (address : UInt16) (bytes : List UInt8) :
    lines address bytes = (List.range (lineCount bytes.length)).flatMap (lineAt address bytes) := by
  induction address, bytes using lines_induction with
  | last address bytes few =>
    rw [lines_of_le address few, lineCount_of_le few, List.range_one, List.flatMap_singleton,
      lineAt_zero, List.take_of_length_le few]
  | more address bytes many ih =>
    rw [lines_of_gt address many, lineCount_of_gt many, List.range_succ_eq_map,
      List.flatMap_cons, List.flatMap_map, lineAt_zero, ih, List.length_drop]
    simp only [lineAt_succ]

/-- A line has its line feed at the end and no other. -/
theorem newline_not_mem_row (address : UInt16) (bytes : List UInt8) :
    '\n' ∉ Hex.wordDigits address ++ ':' :: bytes.flatMap fun b => ' ' :: Hex.byteDigits b := by
  simp [Hex.newline_not_mem_wordDigits, Hex.newline_not_mem_byteDigits]

/-! ## Reading -/

/-- Reads the octets after the address of a line, and those of all further lines. -/
def readOctets : List Char → Option (List UInt8)
  | ['\n'] => some []
  | '\n' :: _ :: _ :: _ :: _ :: ':' :: rest => readOctets rest
  | ' ' :: high :: low :: rest => do
    let n ← Hex.number? [high, low]
    let bytes ← readOctets rest
    some (UInt8.ofNat n :: bytes)
  | _ => none

/-- Reads the address and the octets that a hexdump shows. -/
def read? (text : String) : Option (UInt16 × Bytes) :=
  match text.toList with
  | a :: b :: c :: d :: ':' :: rest => do
    let n ← Hex.number? [a, b, c, d]
    let bytes ← readOctets rest
    some (UInt16.ofNat n, bytes.toArray)
  | _ => none

/-- An octet is read and then what follows it. -/
theorem readOctets_byteDigits (b : UInt8) (rest : List Char) :
    readOctets (' ' :: Hex.byteDigits b ++ rest) = (readOctets rest).map (b :: ·) := by
  show ((Hex.number? (Hex.byteDigits b)).bind fun n =>
    (readOctets rest).bind fun bytes => some (UInt8.ofNat n :: bytes)) = _
  rw [Hex.number?_byteDigits, Option.bind_some, UInt8.ofNat_toNat]
  cases readOctets rest <;> rfl

theorem readOctets_flatMap (bytes : List UInt8) (rest : List Char) :
    readOctets ((bytes.flatMap fun b => ' ' :: Hex.byteDigits b) ++ rest) =
      (readOctets rest).map (bytes ++ ·) := by
  induction bytes with
  | nil => simp
  | cons b bytes ih =>
    rw [List.flatMap_cons, List.append_assoc, readOctets_byteDigits, ih, Option.map_map]
    rfl

/-- The address of a further line is passed over. -/
theorem readOctets_newline (address : UInt16) (rest : List Char) :
    readOctets ('\n' :: Hex.wordDigits address ++ ':' :: rest) = readOctets rest := rfl

/-- Behind the first address of a hexdump all its octets are found. -/
theorem readOctets_lines (address : UInt16) (bytes : List UInt8) :
    ∃ rest, lines address bytes = Hex.wordDigits address ++ ':' :: rest ∧
      readOctets rest = some bytes := by
  induction address, bytes using lines_induction with
  | last address bytes few =>
    refine ⟨_, (lines_of_le address few).trans (List.append_assoc _ _ _), ?_⟩
    show readOctets ((bytes.flatMap fun b => ' ' :: Hex.byteDigits b) ++ ['\n']) = some bytes
    rw [readOctets_flatMap]
    simp [readOctets]
  | more address bytes many ih =>
    obtain ⟨further, lines_further, found⟩ := ih
    refine ⟨((bytes.take 16).flatMap fun b => ' ' :: Hex.byteDigits b) ++
      '\n' :: Hex.wordDigits (address + 16) ++ ':' :: further, ?_, ?_⟩
    · rw [lines_of_gt address many, lines_further, line]
      simp
    · rw [List.append_assoc, readOctets_flatMap, readOctets_newline, found, Option.map_some,
        List.take_append_drop]

theorem read?_render (address : UInt16) (bytes : Bytes) :
    read? (render address bytes) = some (address, bytes) := by
  obtain ⟨rest, split, found⟩ := readOctets_lines address bytes.toList
  rw [read?, render, String.toList_ofList, split]
  show ((Hex.number? (Hex.wordDigits address)).bind fun n =>
    (readOctets rest).bind fun bytes => some (UInt16.ofNat n, bytes.toArray)) = _
  rw [Hex.number?_wordDigits, Option.bind_some, UInt16.ofNat_toNat, found]
  rfl

/-- **A hexdump shows its memory in full.**  It has a line for every sixteen octets and one
for what is left over, and a single line if there are no octets at all.  Line `j` is the
address `base + 16 * j`, modulo 65536, in four digits, a colon, and each of the octets from
number `16 * j` up to and without number `16 * j + 16`, as far as there are any, as a blank
and two digits; and then a line feed, the only one in the line.  All digits are hexadecimal
and in upper case.  The reader `read?` gets the address and the octets back from the text,
so no other memory has the same hexdump. -/
theorem render_is_faithful (base : UInt16) (bytes : Bytes) :
    let row (j : Nat) : List Char :=
      Hex.padded 4 ((base.toNat + 16 * j) % 65536) ++ ':' ::
        (bytes.extract (16 * j) (16 * j + 16)).toList.flatMap fun b =>
          ' ' :: Hex.padded 2 b.toNat
    (render base bytes).toList =
        (List.range (max 1 ((bytes.size + 15) / 16))).flatMap (fun j => row j ++ ['\n']) ∧
      (∀ j, '\n' ∉ row j) ∧
      read? (render base bytes) = some (base, bytes) ∧
      ∀ other octets, render other octets = render base bytes ↔ other = base ∧ octets = bytes := by
  intro row
  have address (j : Nat) :
      (base + UInt16.ofNat (16 * j)).toNat = (base.toNat + 16 * j) % 65536 := by
    rw [UInt16.toNat_add, UInt16.toNat_ofNat', Nat.add_mod_mod]
  have row_eq (j : Nat) : row j =
      Hex.wordDigits (base + UInt16.ofNat (16 * j)) ++ ':' ::
        ((bytes.toList.drop (16 * j)).take 16).flatMap fun b => ' ' :: Hex.byteDigits b := by
    have part : (bytes.extract (16 * j) (16 * j + 16)).toList =
        (bytes.toList.drop (16 * j)).take 16 := by
      simp
    simp only [row, part, Hex.wordDigits_eq, address, Hex.byteDigits_eq]
  refine ⟨?_, ?_, read?_render base bytes, ?_⟩
  · rw [render, String.toList_ofList, lines_eq]
    simp only [row_eq]
    rfl
  · intro j
    rw [row_eq]
    exact newline_not_mem_row _ _
  · intro other octets
    constructor
    · intro same
      have read := read?_render other octets
      rw [same, read?_render, Option.some.injEq, Prod.mk.injEq] at read
      exact ⟨read.1.symm, read.2.symm⟩
    · rintro ⟨rfl, rfl⟩
      rfl

/-- Addresses wrap between two lines. -/
example : render 0xFFF0 (Array.replicate 17 0xA5) =
    "FFF0: A5 A5 A5 A5 A5 A5 A5 A5 A5 A5 A5 A5 A5 A5 A5 A5\n0000: A5\n" := by cbv

end HandheldHost.Hexdump
