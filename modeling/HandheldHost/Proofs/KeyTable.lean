import HandheldHost.KeyTable
import Mathlib.Data.List.Induction
import Mathlib.Data.List.Nodup

/-!
# Key tables keep first bindings

A table is made of a list of bindings one at a time, and a binding whose code is
bound already changes nothing.  So the entries are the bindings that come first with
their codes, and a look-up in the table is a look-up in the list.

* `KeyTable.entries_ofList` -- which bindings are kept.
* `KeyTable.resolve_ofList` -- what a look-up finds.
* `KeyTable.ofList_entries_iff` -- which tables are made of their own entries.
* `KeyTable.keeps_first_bindings` -- all of it, for any list.

Lists of bindings grow at their end here, as the table does, so the proofs are by
induction from that side.
-/

namespace HandheldHost.KeyTable

/-! ## One more binding -/

/-- The codes that a table binds, in order. -/
def codes (table : KeyTable) : List UInt32 := table.entries.map Prod.fst

theorem ofList_append_singleton (bindings : List (UInt32 × Button)) (b : UInt32 × Button) :
    ofList (bindings ++ [b]) = (ofList bindings).bind b :=
  List.foldl_append

theorem any_eq_true_iff (table : KeyTable) (code : UInt32) :
    table.entries.any (fun e => e.1 == code) = true ↔ code ∈ table.codes := by
  simp [codes]

theorem bind_of_mem {table : KeyTable} {b : UInt32 × Button} (bound : b.1 ∈ table.codes) :
    table.bind b = table :=
  if_pos ((table.any_eq_true_iff b.1).mpr bound)

theorem bind_of_not_mem {table : KeyTable} {b : UInt32 × Button} (free : b.1 ∉ table.codes) :
    table.bind b = ⟨table.entries ++ [b]⟩ :=
  if_neg fun bound => free ((table.any_eq_true_iff b.1).mp bound)

theorem mem_codes_bind (table : KeyTable) (b : UInt32 × Button) (code : UInt32) :
    code ∈ (table.bind b).codes ↔ code ∈ table.codes ∨ code = b.1 := by
  by_cases bound : b.1 ∈ table.codes
  · rw [bind_of_mem bound, or_iff_left_of_imp]
    rintro rfl
    exact bound
  · simp [bind_of_not_mem bound, codes]

theorem nodup_codes_bind {table : KeyTable} (distinct : table.codes.Nodup)
    (b : UInt32 × Button) : (table.bind b).codes.Nodup := by
  by_cases bound : b.1 ∈ table.codes
  · rwa [bind_of_mem bound]
  · rw [bind_of_not_mem bound, codes, List.map_append]
    refine List.nodup_append.mpr ⟨distinct, List.nodup_singleton _, ?_⟩
    rintro code there _ new rfl
    exact bound (List.mem_singleton.mp new ▸ there)

/-- One more binding is found where nothing was. -/
theorem resolve_bind (table : KeyTable) (b : UInt32 × Button) (code : UInt32) :
    (table.bind b).resolve code =
      (table.resolve code).or (if b.1 = code then some b.2 else none) := by
  by_cases bound : b.1 ∈ table.codes
  · rw [bind_of_mem bound]
    split
    · rename_i same
      obtain ⟨e, there, first⟩ := List.mem_map.mp bound
      have found : (table.resolve code).isSome = true := by
        simp only [resolve, Option.isSome_map, List.find?_isSome, beq_iff_eq]
        exact ⟨e, there, first.trans same⟩
      exact (Option.or_of_isSome found).symm
    · rw [Option.or_none]
  · rw [bind_of_not_mem bound]
    simp only [resolve, List.find?_append, Option.map_or, List.find?_singleton, beq_iff_eq]
    split <;> rfl

/-! ## Tables of lists -/

theorem mem_codes_ofList (bindings : List (UInt32 × Button)) (code : UInt32) :
    code ∈ (ofList bindings).codes ↔ ∃ b ∈ bindings, b.1 = code := by
  induction bindings using List.reverseRecOn with
  | nil => simp [ofList, codes]
  | append_singleton bindings b ih =>
    rw [ofList_append_singleton, mem_codes_bind, ih]
    simp only [List.mem_append, List.mem_singleton, or_and_right, exists_or, exists_eq_left]
    exact or_congr_right eq_comm

theorem nodup_codes_ofList (bindings : List (UInt32 × Button)) :
    (ofList bindings).codes.Nodup := by
  induction bindings using List.reverseRecOn with
  | nil => exact List.nodup_nil
  | append_singleton bindings b ih =>
    rw [ofList_append_singleton]
    exact nodup_codes_bind ih b

/-- The bindings whose code does not occur earlier in the list, in order. -/
def firstBindings (bindings : List (UInt32 × Button)) : List (UInt32 × Button) :=
  (bindings.zipIdx.filter fun (b, i) => ∀ earlier ∈ bindings.take i, earlier.1 ≠ b.1).map Prod.fst

/-- What comes later in a list does not matter to the bindings before it. -/
theorem firstBindings_append_singleton (bindings : List (UInt32 × Button))
    (b : UInt32 × Button) :
    firstBindings (bindings ++ [b]) =
      firstBindings bindings ++ if ∀ earlier ∈ bindings, earlier.1 ≠ b.1 then [b] else [] := by
  have before (e : UInt32 × Button) (i : Nat) (there : (e, i) ∈ bindings.zipIdx) :
      (bindings ++ [b]).take i = bindings.take i := by
    have small := List.snd_lt_of_mem_zipIdx there
    exact List.take_append_of_le_length (by omega)
  have kept : (bindings.zipIdx.filter fun (e, i) =>
      ∀ earlier ∈ (bindings ++ [b]).take i, earlier.1 ≠ e.1) =
        bindings.zipIdx.filter fun (e, i) => ∀ earlier ∈ bindings.take i, earlier.1 ≠ e.1 := by
    refine List.filter_congr fun (e, i) there => ?_
    simp only [before e i there]
  rw [firstBindings, List.zipIdx_append, List.filter_append, List.map_append, kept]
  congr 1
  simp only [List.zipIdx_singleton, Nat.zero_add, List.filter_cons, List.filter_nil,
    List.take_left, decide_eq_true_eq]
  split <;> rfl

theorem entries_ofList (bindings : List (UInt32 × Button)) :
    (ofList bindings).entries = firstBindings bindings := by
  induction bindings using List.reverseRecOn with
  | nil => rfl
  | append_singleton bindings b ih =>
    rw [ofList_append_singleton, firstBindings_append_singleton, ← ih]
    split
    · rename_i free
      rw [bind_of_not_mem]
      rintro there
      obtain ⟨earlier, among, same⟩ := (mem_codes_ofList bindings b.1).mp there
      exact free earlier among same
    · rename_i bound
      rw [bind_of_mem, List.append_nil]
      simpa [mem_codes_ofList] using bound

/-- A look-up in a table is a look-up in the list it was made of. -/
theorem resolve_ofList (bindings : List (UInt32 × Button)) (code : UInt32) :
    (ofList bindings).resolve code =
      (bindings.find? fun b => b.1 == code).map Prod.snd := by
  induction bindings using List.reverseRecOn with
  | nil => rfl
  | append_singleton bindings b ih =>
    rw [ofList_append_singleton, resolve_bind, ih, List.find?_append, Option.map_or,
      List.find?_singleton]
    simp only [beq_iff_eq]
    split <;> rfl

theorem ofList_entries_iff (table : KeyTable) :
    ofList table.entries = table ↔ table.codes.Nodup := by
  constructor
  · intro same
    rw [← same]
    exact nodup_codes_ofList _
  · intro distinct
    obtain ⟨entries⟩ := table
    induction entries using List.reverseRecOn with
    | nil => rfl
    | append_singleton entries b ih =>
      rw [codes, List.map_append, List.nodup_append] at distinct
      obtain ⟨distinct, -, apart⟩ := distinct
      have same : ofList entries = ⟨entries⟩ := ih distinct
      show ofList (entries ++ [b]) = _
      rw [ofList_append_singleton, same]
      exact bind_of_not_mem fun bound => apart _ bound _ (List.mem_singleton_self _) rfl

/-- **A key table keeps the first binding of every code.**  Its entries are the bindings
whose code does not occur earlier in the list, in the order of the list, so no code
occurs twice.  A look-up gives the button of the first binding of the code, and nothing
exactly when no binding has the code.  The entries of a table make the same table again,
and so do those of any other in which no code occurs twice.  In the table of a list with
another behind it a code is looked up in the first list's table, and in the second's if
it is not bound there. -/
theorem keeps_first_bindings (bindings : List (UInt32 × Button)) :
    (ofList bindings).entries =
        (bindings.zipIdx.filter fun (b, i) =>
          ∀ earlier ∈ bindings.take i, earlier.1 ≠ b.1).map Prod.fst ∧
      ((ofList bindings).entries.map Prod.fst).Nodup ∧
      (∀ code button, (ofList bindings).resolve code = some button ↔
        ∃ earlier later, bindings = earlier ++ (code, button) :: later ∧
          ∀ b ∈ earlier, b.1 ≠ code) ∧
      (∀ code, (ofList bindings).resolve code = none ↔ ∀ b ∈ bindings, b.1 ≠ code) ∧
      ofList (ofList bindings).entries = ofList bindings ∧
      (∀ table, ofList table.entries = table ↔ (table.entries.map Prod.fst).Nodup) ∧
      ∀ more code, (ofList (bindings ++ more)).resolve code =
        ((ofList bindings).resolve code).or ((ofList more).resolve code) := by
  refine ⟨entries_ofList bindings, nodup_codes_ofList bindings, ?_, ?_,
    (ofList_entries_iff _).mpr (nodup_codes_ofList bindings), ofList_entries_iff, ?_⟩
  · intro code button
    rw [resolve_ofList, Option.map_eq_some_iff]
    constructor
    · rintro ⟨b, found, rfl⟩
      obtain ⟨same, earlier, later, split, others⟩ := List.find?_eq_some_iff_append.mp found
      obtain rfl := eq_of_beq same
      exact ⟨earlier, later, split, by simpa using others⟩
    · rintro ⟨earlier, later, split, others⟩
      refine ⟨(code, button), List.find?_eq_some_iff_append.mpr ?_, rfl⟩
      exact ⟨beq_self_eq_true code, earlier, later, split, by simpa using others⟩
  · intro code
    rw [resolve_ofList]
    simp
  · intro more code
    simp only [resolve_ofList, List.find?_append, Option.map_or]

/-- A later binding gives way even if it comes between new ones. -/
example : (ofList [(1, .a), (2, .b), (1, .up), (3, .b)]).entries = [(1, .a), (2, .b), (3, .b)] := by
  decide

end HandheldHost.KeyTable
