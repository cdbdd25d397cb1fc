import HandheldHost.Pixmap
import Mathlib.Data.List.Basic
import Mathlib.Tactic.Ring

/-!
# Enlarged pixmaps, octet by octet

After its header a pixmap is blocks within blocks.  There is a band for every
row of the picture, which is the same row of the pixmap over and over; in such a
row there is a run for every pixel of the picture, which is the same colour over
and over; and a colour is three octets.  Blocks of a kind are of one size, so an
octet is found by going down from block to block.

* `getElem?_flatMap_range` -- an octet of one block of many.
* `Pixmap.toList_encode` -- the blocks.
* `Pixmap.getElem?_body` -- the octets of every pixel of the pixmap.
* `Pixmap.encode_congr` -- what a pixmap depends on.
* `Pixmap.encode_is_nearest_neighbour` -- all of it.
-/

namespace HandheldHost

/-! ## Blocks of one size -/

section

variable {α : Type} {f : Nat → List α} {m : Nat}

theorem length_flatMap_range (size : ∀ i, (f i).length = m) (n : Nat) :
    ((List.range n).flatMap f).length = n * m := by
  induction n with
  | zero => simp
  | succ n ih => simp [List.range_succ, ih, size, Nat.succ_mul]

/-- An octet of a block has its place in the whole. -/
theorem block_place_lt {n i j : Nat} (hi : i < n) (hj : j < m) : i * m + j < n * m := by
  have := Nat.mul_le_mul_right m hi
  rw [Nat.succ_mul] at this
  omega

theorem getElem?_flatMap_range (size : ∀ i, (f i).length = m) {n i j : Nat} (hi : i < n)
    (hj : j < m) : ((List.range n).flatMap f)[i * m + j]? = (f i)[j]? := by
  induction n with
  | zero => exact absurd hi i.not_lt_zero
  | succ n ih =>
    have before := length_flatMap_range size n
    rw [List.range_succ, List.flatMap_append, List.flatMap_singleton]
    rcases Nat.lt_or_eq_of_le (Nat.le_of_lt_succ hi) with earlier | rfl
    · rw [List.getElem?_append_left (by rw [before]; exact block_place_lt earlier hj), ih earlier]
    · rw [List.getElem?_append_right (by omega), before, Nat.add_sub_cancel_left]

end

/-- A loop that appends a block in every step appends the blocks in order. -/
theorem toList_fold {f : Nat → Bytes → Bytes} {block : Nat → List UInt8}
    (appends : ∀ i out, (f i out).toList = out.toList ++ block i) (n : Nat) (out : Bytes) :
    (n.fold (fun i _ out => f i out) out).toList = out.toList ++ (List.range n).flatMap block := by
  induction n with
  | zero => simp
  | succ n ih => simp [Nat.fold_succ, appends, ih, List.range_succ]

namespace Pixmap

/-! ## The header -/

/-- A text without characters beyond ASCII is written octet for character. -/
theorem toNat_ascii {text : String} (plain : ∀ c ∈ text.toList, c.toNat < 128) :
    (ascii text).toList.map UInt8.toNat = text.toList.map Char.toNat := by
  rw [ascii, List.map_map]
  refine List.map_congr_left fun c member => ?_
  have small := plain c member
  exact UInt8.toNat_ofNat_of_lt' (Nat.lt_trans small (by decide))

theorem toNat_lt_of_isDigit {c : Char} (digit : c.isDigit) : c.toNat < 128 := by
  have bounds : '0' ≤ c ∧ c ≤ '9' := by simpa [Char.isDigit, Char.le_def] using digit
  exact Nat.lt_of_le_of_lt bounds.2 (by decide)

theorem header_plain (width height : Nat) : ∀ c ∈ (header width height).toList, c.toNat < 128 := by
  have digits (n : Nat) : ∀ c ∈ (toString n).toList, c.toNat < 128 := by
    intro c member
    rw [Nat.toString_eq_ofList_toDigits, String.toList_ofList] at member
    exact toNat_lt_of_isDigit (Nat.isDigit_of_mem_toDigits (by decide) (by decide) member)
  have texts : ∀ text ∈ ["P6\n", " ", "\n255\n"], ∀ c ∈ text.toList, c.toNat < 128 := by simp
  intro c member
  simp only [header, String.toList_append, List.mem_append] at member
  rcases member with (((first | wide) | blank) | tall) | last
  · exact texts _ (by simp) c first
  · exact digits width c wide
  · exact texts _ (by simp) c blank
  · exact digits height c tall
  · exact texts _ (by simp) c last

/-! ## The blocks -/

/-- The octets of a colour, in order. -/
def octets (c : UInt8 × UInt8 × UInt8) : List UInt8 := [c.1, c.2.1, c.2.2]

/-- A colour over and over. -/
def run (times : Nat) (c : UInt8 × UInt8 × UInt8) : List UInt8 :=
  (List.range times).flatMap fun _ => octets c

/-- What follows the header: bands of equal rows. -/
def body (rgba : Bytes) (width height s : Nat) : List UInt8 :=
  (List.range height).flatMap fun y => (List.range s).flatMap fun _ => (row rgba width s y).toList

theorem toList_pushColour (c : UInt8 × UInt8 × UInt8) (out : Bytes) :
    (pushColour out c).toList = out.toList ++ octets c := by
  simp [pushColour, octets]

theorem toList_pushColours (times : Nat) (c : UInt8 × UInt8 × UInt8) (out : Bytes) :
    (pushColours times c out).toList = out.toList ++ run times c :=
  toList_fold (fun _ => toList_pushColour c) times out

theorem toList_row (rgba : Bytes) (width s y : Nat) :
    (row rgba width s y).toList =
      (List.range width).flatMap fun x => run s (colour rgba (y * width + x)) :=
  toList_fold (fun _ => toList_pushColours s _) width #[]

theorem toList_encode (rgba : Bytes) (width height scale : Nat) :
    (encode rgba width height scale).toList =
      (ascii (header (width * max scale 1) (height * max scale 1))).toList ++
        body rgba width height (max scale 1) :=
  toList_fold (fun _ => toList_fold (fun _ _ => Array.toList_append) _) height _

/-! ## Their sizes, and the octets in them -/

section

variable {rgba : Bytes} {width height s : Nat}

theorem length_run (times : Nat) (c : UInt8 × UInt8 × UInt8) :
    (run times c).length = times * 3 :=
  length_flatMap_range (fun _ => rfl) times

theorem length_row (y : Nat) : (row rgba width s y).toList.length = width * (s * 3) := by
  rw [toList_row]
  exact length_flatMap_range (fun _ => length_run s _) width

theorem length_body : (body rgba width height s).length = height * (s * (width * (s * 3))) :=
  length_flatMap_range (fun y => length_flatMap_range (fun _ => length_row y) s) height

/-- Octet `c` of the colour number `i` of the run for pixel `x`. -/
theorem getElem?_row {x i c : Nat} (y : Nat) (hx : x < width) (hi : i < s) (hc : c < 3) :
    (row rgba width s y).toList[x * (s * 3) + (i * 3 + c)]? =
      (octets (colour rgba (y * width + x)))[c]? := by
  rw [toList_row, getElem?_flatMap_range (fun _ => length_run s _) hx (block_place_lt hi hc)]
  exact getElem?_flatMap_range (fun _ => rfl) hi hc

/-- Octet `c` of every pixel of the pixmap is that of the pixel of the picture that it
comes from. -/
theorem getElem?_body {x y c : Nat} (hx : x < width * s) (hy : y < height * s) (hc : c < 3) :
    (body rgba width height s)[(y * (width * s) + x) * 3 + c]? =
      (octets (colour rgba (y / s * width + x / s)))[c]? := by
  have some_scale : 0 < s := Nat.pos_of_mul_pos_left (Nat.zero_lt_of_lt hx)
  have hx' : x / s < width := Nat.div_lt_of_lt_mul (by rwa [Nat.mul_comm])
  have hy' : y / s < height := Nat.div_lt_of_lt_mul (by rwa [Nat.mul_comm])
  have hi : x % s < s := Nat.mod_lt x some_scale
  have hj : y % s < s := Nat.mod_lt y some_scale
  -- From the outside in: the band, the row in it, the run in that, the colour in that.
  have place : (y * (width * s) + x) * 3 + c =
      y / s * (s * (width * (s * 3))) +
        (y % s * (width * (s * 3)) + (x / s * (s * 3) + (x % s * 3 + c))) := by
    conv_lhs => rw [← Nat.div_add_mod y s, ← Nat.div_add_mod x s]
    ring
  have in_row := block_place_lt hx' (block_place_lt hi hc)
  have in_band := block_place_lt hj in_row
  rw [place, body,
    getElem?_flatMap_range (fun y => length_flatMap_range (fun _ => length_row y) s) hy' in_band,
    getElem?_flatMap_range (fun _ => length_row _) hj in_row]
  exact getElem?_row _ hx' hi hc

end

/-- Octet `c` of a colour, which is black if the pixel is not there in full. -/
theorem getElem?_octets (rgba : Bytes) (i : Nat) {c : Nat} (hc : c < 3) :
    (octets (colour rgba i))[c]? =
      if 4 * i + 3 ≤ rgba.size then rgba[4 * i + c]? else some 0 := by
  rw [colour]
  by_cases full : 4 * i + 3 ≤ rgba.size
  · rw [dif_pos full, if_pos full, Array.getElem?_eq_getElem (by omega)]
    rcases c with _ | _ | _ | c
    · rfl
    · rfl
    · rfl
    · omega
  · rw [dif_neg full, if_neg full]
    rcases c with _ | _ | _ | c
    · rfl
    · rfl
    · rfl
    · omega

/-! ## What a pixmap depends on -/

/-- A colour depends on its three octets. -/
theorem colour_congr {rgba other : Bytes} {i : Nat}
    (same : ∀ c, c < 3 → rgba[4 * i + c]? = other[4 * i + c]?) :
    colour rgba i = colour other i := by
  have full : 4 * i + 3 ≤ rgba.size ↔ 4 * i + 3 ≤ other.size := by
    have last : rgba[4 * i + 2]? = none ↔ other[4 * i + 2]? = none := by rw [same 2 (by decide)]
    rw [Array.getElem?_eq_none_iff, Array.getElem?_eq_none_iff] at last
    omega
  have octet (c : Nat) (hc : c < 3) :
      (octets (colour rgba i))[c]? = (octets (colour other i))[c]? := by
    rw [getElem?_octets rgba i hc, getElem?_octets other i hc, same c hc]
    simp only [full]
  have red := octet 0 (by decide)
  have green := octet 1 (by decide)
  have blue := octet 2 (by decide)
  simp only [octets, List.getElem?_cons_zero, List.getElem?_cons_succ, Option.some.injEq]
    at red green blue
  exact Prod.ext red (Prod.ext green blue)

/-- A pixmap depends on the colours of its picture. -/
theorem encode_congr {rgba other : Bytes} {width height : Nat}
    (same : ∀ i, i < width * height → colour rgba i = colour other i) (scale : Nat) :
    encode rgba width height scale = encode other width height scale := by
  apply Array.toList_inj.mp
  rw [toList_encode, toList_encode]
  congr 1
  refine List.flatMap_congr fun y hy => List.flatMap_congr fun _ _ => ?_
  rw [toList_row, toList_row]
  refine List.flatMap_congr fun x hx => ?_
  have place : y * width + x < width * height := by
    rw [Nat.mul_comm width]
    exact block_place_lt (List.mem_range.mp hy) (List.mem_range.mp hx)
  rw [same _ place]

/-- **A pixmap is its picture, enlarged.**  Take any octets, any size and any scale; let
`s` be the scale, or one if it is zero.  The pixmap is a text in ASCII, which gives its
width and its height, and then three octets for each of its pixels, row by row.  Those of
pixel `(x, y)` are the first three of pixel `(x / s, y / s)` of the picture if the octets
reach as far as that, and zeros otherwise.  So nothing depends on octets that are fourth in
their pixel, nor on octets beyond the last pixel. -/
theorem encode_is_nearest_neighbour (rgba : Bytes) (width height scale : Nat) :
    let s := max scale 1
    let text := "P6\n" ++ toString (width * s) ++ " " ++ toString (height * s) ++ "\n255\n"
    ∃ header body : Bytes, encode rgba width height scale = header ++ body ∧
      header.toList.map UInt8.toNat = text.toList.map Char.toNat ∧
      (∀ b ∈ header.toList, b.toNat < 128) ∧
      body.size = width * s * (height * s) * 3 ∧
      (∀ x y c, x < width * s → y < height * s → c < 3 →
        let o := 4 * (y / s * width + x / s)
        body[(y * (width * s) + x) * 3 + c]? =
          if o + 3 ≤ rgba.size then rgba[o + c]? else some 0) ∧
      ∀ other : Bytes,
        (∀ i, i < width * height * 4 → i % 4 ≠ 3 → other[i]? = rgba[i]?) →
        encode other width height scale = encode rgba width height scale := by
  intro s text
  have plain := header_plain (width * s) (height * s)
  have codes : (ascii text).toList.map UInt8.toNat = text.toList.map Char.toNat :=
    toNat_ascii plain
  refine ⟨ascii text, (body rgba width height s).toArray, ?_, codes, ?_, ?_, ?_, ?_⟩
  · apply Array.toList_inj.mp
    rw [toList_encode, Array.toList_append]
    rfl
  · intro b member
    obtain ⟨c, there, same⟩ := List.mem_map.mp (codes ▸ List.mem_map_of_mem member)
    exact same ▸ plain c there
  · rw [List.size_toArray, length_body]
    ring
  · intro x y c hx hy hc o
    rw [List.getElem?_toArray, getElem?_body hx hy hc]
    exact getElem?_octets rgba _ hc
  · intro other same
    refine encode_congr (fun i hi => colour_congr fun c hc => ?_) scale
    exact same (4 * i + c) (by omega) (by omega)

/-- Two pixels, twice as large: the second lacks its last octet in one of two pictures
that differ in the fourth octet of the first. -/
theorem encode_is_nearest_neighbour_twofold :
    let rgba : Bytes := #[1, 2, 3, 255, 4, 5, 6, 255]
    let other : Bytes := #[1, 2, 3, 0, 4, 5, 6]
    (∀ i, i < 2 * 1 * 4 → i % 4 ≠ 3 → other[i]? = rgba[i]?) ∧
      encode other 2 1 2 = encode rgba 2 1 2 ∧
        ∃ header body : Bytes, encode rgba 2 1 2 = header ++ body ∧ body.size = 24 ∧
          body[(1 * 4 + 2) * 3 + 1]? = some 5 := by
  intro rgba other
  have same : ∀ i, i < 2 * 1 * 4 → i % 4 ≠ 3 → other[i]? = rgba[i]? := by decide
  obtain ⟨header, body, split, -, -, size, pixels, depends⟩ :=
    encode_is_nearest_neighbour rgba 2 1 2
  exact ⟨same, depends other same, header, body, split, size,
    pixels 2 1 1 (by decide) (by decide) (by decide)⟩

end Pixmap

end HandheldHost
