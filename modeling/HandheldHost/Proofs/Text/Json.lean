import HandheldHost.Proofs.Text.Hex
import HandheldHost.Text.Json
import Mathlib.Data.List.Basic
import Mathlib.Tactic.SplitIfs

/-!
# Compact JSON, read back

Nothing below U+0020 gets into compact JSON: inside a string it is escaped, and
outside there are no blanks.  And every piece can be told from what follows it: a
string ends at the first quote that is not escaped, a number at the first character
that is no digit, and the others have a bracket at their end or a fixed length.

* `Text.Plain` -- a text without such characters; one lemma for each piece of JSON.
* `Text.Json.Reader` -- readers of pieces, which know what they are to find.
* `Text.Json.Reads` -- a reader finds a value in its written form, whatever follows.

A number is the one piece that does not show its end, so `Reads` asks that what follows
begins with no digit, of all pieces alike.
-/

namespace HandheldHost.Text

/-! ## Plain text -/

/-- A text without control characters below U+0020. -/
def Plain (s : List Char) : Prop := ∀ c ∈ s, 0x20 ≤ c.toNat

@[simp] theorem plain_nil : Plain [] := List.forall_mem_nil _

@[simp] theorem plain_cons {c : Char} {s : List Char} :
    Plain (c :: s) ↔ 0x20 ≤ c.toNat ∧ Plain s :=
  List.forall_mem_cons

@[simp] theorem plain_append {s t : List Char} : Plain (s ++ t) ↔ Plain s ∧ Plain t :=
  List.forall_mem_append

theorem Plain.newline_not_mem {s : List Char} (plain : Plain s) : '\n' ∉ s := fun there =>
  absurd (plain '\n' there) (by decide)

namespace Json

theorem plain_escape (c : Char) : Plain (escape c) := by
  have digit : ∀ n < 16, 0x20 ≤ (lowerDigit n).toNat := by decide
  unfold escape
  split_ifs with quote slash back tab feed page ret control
  -- The letters of an escape are fixed; digits and a character by itself are not.
  rotate_left 7
  · have high := digit (c.toNat / 16) (by omega)
    have low := digit (c.toNat % 16) (by omega)
    simp [high, low]
  · simpa using control
  all_goals simp

theorem plain_text (s : List Char) : Plain (text s) := by
  have escaped : Plain (s.flatMap escape) := by
    intro c there
    obtain ⟨d, -, within⟩ := List.mem_flatMap.mp there
    exact plain_escape d c within
  simp [text, escaped]

theorem plain_null : Plain null := by simp [null]

theorem plain_bool (b : Bool) : Plain (bool b) := by cases b <;> simp [bool]

theorem isDigit_of_mem_nat {n : Nat} {c : Char} (there : c ∈ nat n) : c.isDigit = true :=
  Nat.isDigit_of_mem_toDigits (by decide) (by decide) there

theorem plain_nat (n : Nat) : Plain (nat n) := by
  intro c there
  have digit := isDigit_of_mem_nat there
  simp only [Char.isDigit, ge_iff_le, Bool.and_eq_true, decide_eq_true_eq] at digit
  have low : 48 ≤ c.toNat := digit.1
  omega

theorem mem_commas {c : Char} {items : List (List Char)} (there : c ∈ commas items) :
    c = ',' ∨ ∃ item ∈ items, c ∈ item := by
  induction items with
  | nil => exact absurd there List.not_mem_nil
  | cons item items ih =>
    cases items with
    | nil => exact .inr ⟨item, List.mem_cons_self, there⟩
    | cons next items =>
      rcases List.mem_append.mp there with first | later
      · exact .inr ⟨item, List.mem_cons_self, first⟩
      · rcases List.mem_cons.mp later with comma | later
        · exact .inl comma
        · exact (ih later).imp_right fun ⟨i, among, within⟩ =>
            ⟨i, List.mem_cons_of_mem item among, within⟩

theorem plain_commas {items : List (List Char)} (h : ∀ item ∈ items, Plain item) :
    Plain (commas items) := by
  intro c there
  rcases mem_commas there with rfl | ⟨item, among, within⟩
  · decide
  · exact h item among c within

theorem plain_array {items : List (List Char)} (h : ∀ item ∈ items, Plain item) :
    Plain (array items) := by
  simp [array, plain_commas h]

theorem plain_field (name : String) {value : List Char} (h : Plain value) :
    Plain (field name value) := by
  simp [field, plain_text, h]

theorem plain_object {fields : List (List Char)} (h : ∀ field ∈ fields, Plain field) :
    Plain (object fields) := by
  simp [object, plain_commas h]

/-! ## Readers -/

/-- Takes a value off the front of a text. -/
abbrev Reader := StateT (List Char) Option

namespace Reader

/-- Passes over a fixed text. -/
def exactly (fixed : List Char) : Reader Unit := fun input =>
  (fixed.isPrefixOf? input).map fun rest => ((), rest)

/-- Reads a truth value. -/
def bool : Reader Bool := (do exactly (Json.bool true); pure true) <|>
  (do exactly (Json.bool false); pure false)

/-- Reads a natural number, as far as there are digits. -/
def nat : Reader Nat := fun input =>
  match input.takeWhile Char.isDigit with
  | [] => none
  | digits => some (Nat.ofDigitChars 10 digits 0, input.dropWhile Char.isDigit)

/-- The character that a letter behind a backslash stands for. -/
def escaped? : Char → Option Char
  | '\x22' => some '\x22'
  | '\\' => some '\\'
  | 'b' => some '\x08'
  | 't' => some '\t'
  | 'n' => some '\n'
  | 'f' => some '\x0c'
  | 'r' => some '\r'
  | _ => none

/-- Reads the rest of a string, up to the quote that is not escaped. -/
def textBody : List Char → Option (List Char × List Char)
  | '\x22' :: rest => some ([], rest)
  | '\\' :: 'u' :: a :: b :: c :: d :: rest =>
    (Hex.number? ([a, b, c, d].map Char.toUpper)).bind fun n =>
      (textBody rest).map (Prod.map (Char.ofNat n :: ·) id)
  | '\\' :: letter :: rest =>
    (escaped? letter).bind fun c => (textBody rest).map (Prod.map (c :: ·) id)
  | c :: rest => (textBody rest).map (Prod.map (c :: ·) id)
  | [] => none

/-- Reads a string. -/
def text : Reader (List Char) := do
  exactly ['\x22']
  textBody

/-- Reads null, or else a value. -/
def nullable (value : Reader α) : Reader (Option α) := fun input =>
  match null.isPrefixOf? input with
  | some rest => some (none, rest)
  | none => (value input).map (Prod.map some id)

/-- Takes everything in front of a character. -/
def before (c : Char) : Reader (List Char) := fun input =>
  some (input.takeWhile (· ≠ c), input.dropWhile (· ≠ c))

/-- What a reader finds in a text, with nothing left over. -/
def whole (r : Reader α) (input : List Char) : Option α :=
  match r input with
  | some (a, []) => some a
  | _ => none

/-- Reads an array of natural numbers. -/
def nats : Reader (List Nat) := do
  exactly ['[']
  let inside ← before ']'
  exactly [']']
  if inside.isEmpty then pure [] else StateT.lift ((inside.splitOn ',').mapM nat.whole)

/-- Reads a field of a given name. -/
def field (name : String) (value : Reader α) : Reader α := do
  exactly (Json.text name.toList ++ [':'])
  value

/-- Reads a field and the comma behind it. -/
def next (name : String) (value : Reader α) : Reader α := do
  let a ← field name value
  exactly [',']
  pure a

/-- Reads a field and the end of its object. -/
def last (name : String) (value : Reader α) : Reader α := do
  let a ← field name value
  exactly ['\x7d']
  pure a

/-- Reads an object, `fields` being what comes behind its beginning. -/
def object (fields : Reader α) : Reader α := do
  exactly ['\x7b']
  fields

end Reader

/-! ## Reading what was written -/

/-- A text does not begin with a digit. -/
def Apart (s : List Char) : Prop := ∀ c ∈ s.head?, c.isDigit = false

/-- A reader finds a value in its written form, and leaves what follows. -/
def Reads (r : Reader α) (a : α) (written : List Char) : Prop :=
  ∀ rest, Apart rest → r (written ++ rest) = some (a, rest)

open Reader

theorem isPrefixOf?_append (fixed rest : List Char) :
    fixed.isPrefixOf? (fixed ++ rest) = some rest :=
  List.isPrefixOf?_eq_some_iff_append_eq.mpr rfl

theorem exactly_bind (fixed : List Char) (r : Unit → Reader α) (rest : List Char) :
    (exactly fixed >>= r) (fixed ++ rest) = r () rest := by
  show ((exactly fixed (fixed ++ rest)).bind fun p => r p.1 p.2) = _
  rw [exactly, isPrefixOf?_append]
  rfl

/-- After a value that is found, reading goes on behind it. -/
theorem Reads.bind {r : Reader α} {a : α} {written : List Char} (here : Reads r a written)
    (others : α → Reader β) {rest : List Char} (apart : Apart rest) :
    (r >>= others) (written ++ rest) = others a rest := by
  show ((r (written ++ rest)).bind fun p => others p.1 p.2) = _
  rw [here rest apart]
  rfl

theorem Reads.map {r : Reader α} {a : α} {written : List Char} (here : Reads r a written)
    (f : α → β) : Reads (f <$> r) (f a) written := by
  intro rest apart
  rw [map_eq_pure_bind, here.bind _ apart]
  rfl

theorem reads_bool (b : Bool) : Reads Reader.bool b (Json.bool b) := by
  intro rest _
  cases b <;> rfl

theorem reads_nat (n : Nat) : Reads Reader.nat n (Json.nat n) := by
  intro rest apart
  have digits : ∀ c ∈ Json.nat n, c.isDigit = true := fun _ there => isDigit_of_mem_nat there
  have none_taken : rest.takeWhile Char.isDigit = [] := by
    cases rest with
    | nil => rfl
    | cons c rest => exact List.takeWhile_cons_of_neg (by simp [apart c rfl])
  have all_left : rest.dropWhile Char.isDigit = rest := by
    cases rest with
    | nil => rfl
    | cons c rest => exact List.dropWhile_cons_of_neg (by simp [apart c rfl])
  have some_digits : Json.nat n ≠ [] := Nat.toDigits_ne_nil
  rw [Reader.nat, List.takeWhile_append_of_pos digits, List.dropWhile_append_of_pos digits,
    none_taken, all_left, List.append_nil]
  split
  · contradiction
  · rw [Json.nat, Nat.ofDigitChars_ten_toDigits]

/-- The four digits of a control character are those of its number as a word. -/
theorem number?_control {c : Char} (control : c.toNat < 0x20) :
    Hex.number? (['0', '0', lowerDigit (c.toNat / 16), lowerDigit (c.toNat % 16)].map
      Char.toUpper) = some c.toNat := by
  have upper : ∀ n < 16, (lowerDigit n).toUpper = Hex.digit n := by decide
  have word : (UInt16.ofNat c.toNat).toNat = c.toNat :=
    UInt16.toNat_ofNat_of_lt (Nat.lt_trans control (by decide))
  have digits : ['0', '0', lowerDigit (c.toNat / 16), lowerDigit (c.toNat % 16)].map
      Char.toUpper = Hex.wordDigits (UInt16.ofNat c.toNat) := by
    have first : c.toNat / 4096 = 0 := by omega
    have second : c.toNat / 256 % 16 = 0 := by omega
    have third : c.toNat / 16 % 16 = c.toNat / 16 := by omega
    rw [Hex.wordDigits, word, first, second, third, ← upper (c.toNat / 16) (by omega),
      ← upper (c.toNat % 16) (by omega)]
    rfl
  rw [digits, Hex.number?_wordDigits, word]

/-- A character is read back from any way it is written. -/
theorem textBody_escape (c : Char) (rest : List Char) :
    textBody (escape c ++ rest) = (textBody rest).map (Prod.map (c :: ·) id) := by
  unfold escape
  split_ifs with quote slash back tab feed page ret control
  all_goals try subst c
  rotate_left 7
  · show (Hex.number? (['0', '0', _, _].map Char.toUpper)).bind _ = _
    rw [number?_control control, Option.bind_some, Char.ofNat_toNat]
    rfl
  · rw [List.singleton_append, textBody]
    · exact quote
    · intro _ _ _ _ _ escaped
      exact absurd escaped slash
    · intro _ _ escaped
      exact absurd escaped slash
  all_goals rfl

theorem textBody_flatMap (s rest : List Char) :
    textBody (s.flatMap escape ++ '\x22' :: rest) = some (s, rest) := by
  induction s with
  | nil => rfl
  | cons c s ih =>
    rw [List.flatMap_cons, List.append_assoc, textBody_escape, ih]
    rfl

theorem reads_text (s : List Char) : Reads Reader.text s (Json.text s) := by
  intro rest _
  have split : Json.text s ++ rest = ['\x22'] ++ (s.flatMap escape ++ '\x22' :: rest) := by
    simp [Json.text]
  rw [Reader.text, split, exactly_bind, textBody_flatMap]

theorem reads_nullable_none (value : Reader α) : Reads (nullable value) none null := by
  intro rest _
  rw [nullable, isPrefixOf?_append]

theorem Reads.nullable {value : Reader α} {a : α} {written : List Char}
    (here : Reads value a written) (other : ∀ rest, null.isPrefixOf? (written ++ rest) = none) :
    Reads (Reader.nullable value) (some a) written := by
  intro rest apart
  rw [Reader.nullable, other rest, here rest apart]
  rfl

/-! ### Arrays -/

theorem commas_eq (items : List (List Char)) : commas items = [','].intercalate items := by
  induction items with
  | nil => rfl
  | cons item items ih =>
    cases items with
    | nil => simp [commas]
    | cons next items =>
      rw [commas, ih]
      · simp
      · nofun

theorem not_mem_nat {c : Char} (other : c.isDigit = false) (n : Nat) : c ∉ Json.nat n :=
  fun there => absurd (isDigit_of_mem_nat there) (by simp [other])

theorem bracket_not_mem_commas (ns : List Nat) : ']' ∉ commas (ns.map Json.nat) := by
  intro there
  rcases mem_commas there with comma | ⟨item, among, within⟩
  · exact absurd comma (by decide)
  · obtain ⟨n, -, rfl⟩ := List.mem_map.mp among
    exact not_mem_nat (by decide) n within

theorem before_bind {c : Char} {s : List Char} (free : c ∉ s) (others : List Char → Reader α)
    (rest : List Char) : (before c >>= others) (s ++ ([c] ++ rest)) = others s ([c] ++ rest) := by
  have all : ∀ d ∈ s, decide (d ≠ c) = true := by
    intro d there
    exact decide_eq_true fun same => free (same ▸ there)
  have found : before c (s ++ ([c] ++ rest)) = some (s, [c] ++ rest) := by
    rw [before, List.takeWhile_append_of_pos all, List.dropWhile_append_of_pos all]
    simp
  show ((before c (s ++ ([c] ++ rest))).bind fun p => others p.1 p.2) = _
  rw [found]
  rfl

theorem Reads.whole {r : Reader α} {a : α} {written : List Char} (here : Reads r a written) :
    r.whole written = some a := by
  have found := here [] (by simp [Apart])
  rw [List.append_nil] at found
  rw [Reader.whole, found]

theorem mapM_whole_nat (ns : List Nat) : (ns.map Json.nat).mapM Reader.nat.whole = some ns := by
  induction ns with
  | nil => rfl
  | cons n ns ih => simp [(reads_nat n).whole, ih]

theorem commas_ne_nil {item : List Char} (some_text : item ≠ []) (items : List (List Char)) :
    commas (item :: items) ≠ [] := by
  cases items <;> simp [commas, some_text]

theorem reads_nats (ns : List Nat) : Reads nats ns (Json.array (ns.map Json.nat)) := by
  intro rest _
  have split : Json.array (ns.map Json.nat) ++ rest =
      ['['] ++ (commas (ns.map Json.nat) ++ ([']'] ++ rest)) := by
    simp [Json.array]
  rw [nats, split, exactly_bind, before_bind (bracket_not_mem_commas ns), exactly_bind]
  cases ns with
  | nil => rfl
  | cons n ns =>
    have some_text : (commas ((n :: ns).map Json.nat)).isEmpty = false :=
      List.isEmpty_eq_false_iff.mpr (commas_ne_nil Nat.toDigits_ne_nil _)
    have pieces : (commas ((n :: ns).map Json.nat)).splitOn ',' = (n :: ns).map Json.nat := by
      rw [commas_eq]
      exact List.splitOn_intercalate ',' (by simp [not_mem_nat]) (by simp)
    rw [some_text, pieces, mapM_whole_nat]
    rfl

/-! ### Objects -/

theorem Reads.field {value : Reader α} {a : α} {written : List Char} (name : String)
    (here : Reads value a written) :
    Reads (Reader.field name value) a (Json.field name written) := by
  intro rest apart
  have split : Json.field name written ++ rest =
      (Json.text name.toList ++ [':']) ++ (written ++ rest) := by
    simp [Json.field]
  rw [Reader.field, split, exactly_bind, here rest apart]

/-- A field is read with the comma behind it, and then the others. -/
theorem Reads.next {value : Reader α} {others : α → Reader β} {a : α} {b : β}
    {written field : List Char} {fields : List (List Char)} (name : String)
    (here : Reads value a written)
    (there : Reads (others a) b (commas (field :: fields) ++ ['\x7d'])) :
    Reads (Reader.next name value >>= others) b
      (commas (Json.field name written :: field :: fields) ++ ['\x7d']) := by
  intro rest apart
  have split : commas (Json.field name written :: field :: fields) ++ ['\x7d'] ++ rest =
      Json.field name written ++ ([','] ++ (commas (field :: fields) ++ ['\x7d'] ++ rest)) := by
    simp [commas]
  rw [Reader.next, split, bind_assoc, (here.field name).bind _ (by simp [Apart]), bind_assoc,
    exactly_bind, pure_bind, there rest apart]

/-- The last field is read with the end of the object. -/
theorem Reads.last {value : Reader α} {a : α} {written : List Char} (name : String)
    (here : Reads value a written) (f : α → β) :
    Reads (Reader.last name value >>= fun a => pure (f a)) (f a)
      (commas [Json.field name written] ++ ['\x7d']) := by
  intro rest apart
  have split : commas [Json.field name written] ++ ['\x7d'] ++ rest =
      Json.field name written ++ (['\x7d'] ++ rest) := by
    simp [commas]
  rw [Reader.last, split, bind_assoc, (here.field name).bind _ (by simp [Apart]), bind_assoc,
    exactly_bind, pure_bind]
  rfl

theorem Reads.object {fields : Reader α} {a : α} {written : List (List Char)}
    (here : Reads fields a (commas written ++ ['\x7d'])) :
    Reads (Reader.object fields) a (Json.object written) := by
  intro rest apart
  have split : Json.object written ++ rest = ['\x7b'] ++ (commas written ++ ['\x7d'] ++ rest) := by
    simp [Json.object]
  rw [Reader.object, split, exactly_bind, here rest apart]

end Json

end HandheldHost.Text
