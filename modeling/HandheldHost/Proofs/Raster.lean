import HandheldHost.Raster

/-!
# Rasters, octet by octet

A raster is read through `getElem?`.  Octet `c` of row `r` of a picture
whose rows are `w` pixels wide is number `4 * (r * w) + c`, and the lemmas
below say what each operation leaves at such a place.

* `Raster.getElem?_splice` -- a splice shows on its own stretch alone.
* `Raster.mem_stretch_iff` -- a stretch inside one row is met by octets of
  that row only; it carries all two-dimensional index arithmetic.
* `Raster.getElem?_draw` -- a drawn picture is its pixels in order.
* `Raster.paint?_eq` -- writing pixel after pixel in place finds every octet, and
  leaves what drawing gives.
* `Raster.ext` -- a picture is known by its octets, row by row.
-/

namespace HandheldHost

/-! ## Counting loops -/

/-- What holds at the start of a counting loop and is carried over each of
its steps holds at the end. -/
theorem fold_invariant {α : Type u} (P : Nat → α → Prop) {n : Nat} {a : α}
    (f : (i : Nat) → i < n → α → α) (start : P 0 a)
    (step : ∀ i (h : i < n) b, P i b → P (i + 1) (f i h b)) : P n (n.fold f a) := by
  induction n with
  | zero => exact start
  | succ n ih =>
    rw [Nat.fold_succ]
    exact step n (Nat.lt_succ_self n) _
      (ih (fun i h b => f i (Nat.lt_succ_of_lt h) b)
        fun i h b hb => step i (Nat.lt_succ_of_lt h) b hb)

/-- Two counting loops that carry a relation over each of their steps carry it
from the start to the end. -/
theorem fold_simulation {α : Type u} {β : Type v} (R : Nat → α → β → Prop) {n : Nat} {a : α}
    {b : β} (f : (i : Nat) → i < n → α → α) (g : (i : Nat) → i < n → β → β) (start : R 0 a b)
    (step : ∀ i (h : i < n) a b, R i a b → R (i + 1) (f i h a) (g i h b)) :
    R n (n.fold f a) (n.fold g b) := by
  induction n with
  | zero => exact start
  | succ n ih =>
    rw [Nat.fold_succ, Nat.fold_succ]
    exact step n (Nat.lt_succ_self n) _ _
      (ih (fun i h => f i (Nat.lt_succ_of_lt h)) (fun i h => g i (Nat.lt_succ_of_lt h))
        fun i h => step i (Nat.lt_succ_of_lt h))

/-- A counting loop whose steps may fail gives what the loop gives whose steps do not, if
they agree. -/
theorem fold_bind_eq_some {α : Type u} {n : Nat} {f : (i : Nat) → i < n → α → α}
    {f? : (i : Nat) → i < n → α → Option α} (agree : ∀ i h a, f? i h a = some (f i h a)) (a : α) :
    n.fold (fun i h acc => acc.bind (f? i h)) (some a) = some (n.fold f a) := by
  induction n with
  | zero => rfl
  | succ n ih =>
    rw [Nat.fold_succ, Nat.fold_succ, ih fun i h a => agree i (Nat.lt_succ_of_lt h) a]
    exact agree n (Nat.lt_succ_self n) _

namespace Raster

/-! ## Places in a picture -/

/-- A stretch that starts at octet `a` of row `s` and stays inside that row
holds octet `c` of row `r` exactly when the rows are the same and `c` lies
in the stretch. -/
theorem mem_stretch_iff {w r s a c len : Nat} (hc : c < 4 * w) (ha : a + len ≤ 4 * w) :
    (4 * (s * w) + a ≤ 4 * (r * w) + c ∧ 4 * (r * w) + c < 4 * (s * w) + a + len) ↔
      r = s ∧ a ≤ c ∧ c < a + len := by
  constructor
  · rintro ⟨h₁, h₂⟩
    have hrs : r = s := by
      rcases Nat.lt_trichotomy r s with h | h | h
      · have := Nat.mul_le_mul_right w h
        rw [Nat.succ_mul] at this
        omega
      · exact h
      · have := Nat.mul_le_mul_right w h
        rw [Nat.succ_mul] at this
        omega
    subst hrs
    omega
  · rintro ⟨rfl, h₁, h₂⟩
    omega

/-- A stretch that stays inside a row of a picture stays inside the picture. -/
theorem stretch_le {w h r a len : Nat} (hr : r < h) (ha : a + len ≤ 4 * w) :
    4 * (r * w) + a + len ≤ 4 * (w * h) := by
  have := Nat.mul_le_mul_right w hr
  rw [Nat.succ_mul, Nat.mul_comm h w] at this
  omega

/-- The four octets of a pixel of a picture are among the picture's octets. -/
theorem pixel_stop_le {w h x y : Nat} (hx : x < w) (hy : y < h) :
    4 * (y * w + x) + 4 ≤ 4 * (w * h) := by
  rw [Nat.mul_add]
  exact stretch_le hy (by omega)

/-- The place of an octet of a picture is one of the picture's octets. -/
theorem place_lt {w h r c : Nat} (hr : r < h) (hc : c < 4 * w) :
    4 * (r * w) + c < 4 * (w * h) :=
  stretch_le hr (show c + 1 ≤ 4 * w from hc)

/-- Every octet of a picture has a place in one of its rows. -/
theorem exists_place {w h i : Nat} (hi : i < 4 * (w * h)) :
    ∃ r c, r < h ∧ c < 4 * w ∧ 4 * (r * w) + c = i := by
  have wide : 0 < 4 * w := by
    refine Nat.pos_of_ne_zero fun flat => ?_
    rw [← Nat.mul_assoc, flat, Nat.zero_mul] at hi
    exact Nat.not_lt_zero i hi
  refine ⟨i / (4 * w), i % (4 * w), Nat.div_lt_of_lt_mul (by rwa [Nat.mul_assoc]),
    Nat.mod_lt i wide, ?_⟩
  rw [Nat.mul_comm (i / _), ← Nat.mul_assoc, Nat.div_add_mod]

/-- A picture is known by its octets, row by row. -/
theorem ext {w h : Nat} {a b : Bytes} (ha : a.size = 4 * (w * h)) (hb : b.size = 4 * (w * h))
    (same : ∀ r c, r < h → c < 4 * w → a[4 * (r * w) + c]? = b[4 * (r * w) + c]?) : a = b := by
  apply Array.ext_getElem?
  intro i
  rcases Nat.lt_or_ge i (4 * (w * h)) with hi | hi
  · obtain ⟨r, c, hr, hc, rfl⟩ := exists_place hi
    exact same r c hr hc
  · rw [Array.getElem?_eq_none (by omega), Array.getElem?_eq_none (by omega)]

/-! ## Splicing -/

/-- A splice puts its part where it belongs and leaves every other octet as
it was. -/
theorem getElem?_splice (octets : Vector UInt8 n) (start : Nat) (part : Bytes) {j : Nat}
    (hj : j < n) :
    (splice octets start part)[j]? =
      if start ≤ j ∧ j < start + part.size then part[j - start]? else octets[j]? := by
  refine fold_invariant
    (fun m (v : Vector UInt8 n) =>
      v[j]? = if start ≤ j ∧ j < start + m then part[j - start]? else octets[j]?)
    (fun i _ octets => octets.setIfInBounds (start + i) part[i]) ?_ ?_
  · rw [if_neg (by omega)]
  · intro i hi v hv
    by_cases same : start + i = j
    · subst same
      rw [Vector.getElem?_setIfInBounds_self_of_lt hj, if_pos (by omega), Nat.add_sub_cancel_left,
        Array.getElem?_eq_getElem hi]
    · rw [Vector.getElem?_setIfInBounds_ne same, hv]
      by_cases inside : start ≤ j ∧ j < start + i
      · rw [if_pos inside, if_pos (by omega)]
      · rw [if_neg inside, if_neg (by omega)]

/-! ## Drawing -/

theorem push_eq_append (out : Bytes) (p : Pixel) : push out p = out ++ p.toList.toArray := by
  cases out
  simp [push, Pixel.toList]

theorem size_push (out : Bytes) (p : Pixel) : (push out p).size = out.size + 4 := by
  rw [push_eq_append, Array.size_append]
  rfl

theorem getElem?_push (out : Bytes) (p : Pixel) (j : Nat) :
    (push out p)[j]? = if j < out.size then out[j]? else p.toList[j - out.size]? := by
  simp only [push_eq_append, Array.getElem?_append, List.getElem?_toArray]

/-- A row is appended pixel by pixel. -/
theorem getElem?_pushRow (width : Nat) (pixel : Nat → Pixel) (out : Bytes) :
    (pushRow width pixel out).size = out.size + 4 * width ∧
      (∀ j, j < out.size → (pushRow width pixel out)[j]? = out[j]?) ∧
      ∀ c, c < 4 * width →
        (pushRow width pixel out)[out.size + c]? = (pixel (c / 4)).toList[c % 4]? := by
  refine fold_invariant
    (fun m (v : Bytes) => v.size = out.size + 4 * m ∧ (∀ j, j < out.size → v[j]? = out[j]?) ∧
      ∀ c, c < 4 * m → v[out.size + c]? = (pixel (c / 4)).toList[c % 4]?)
    (fun x _ v => push v (pixel x)) ⟨rfl, fun _ _ => rfl, by omega⟩ ?_
  rintro x hx v ⟨hsize, hold, hnew⟩
  refine ⟨?_, ?_, ?_⟩
  · rw [size_push, hsize]
    omega
  · intro j hj
    rw [getElem?_push, if_pos (by omega), hold j hj]
  · intro c hc
    rw [getElem?_push]
    by_cases old : c < 4 * x
    · rw [if_pos (by omega), hnew c old]
    · have hx : c / 4 = x := by omega
      rw [if_neg (by omega), hx]
      congr 1
      omega

/-- A drawn picture holds the octets of its pixels, four for each, in
reading order. -/
theorem getElem?_draw (width height : Nat) (pixel : Nat → Nat → Pixel) :
    (draw width height pixel).size = 4 * (width * height) ∧
      ∀ r c, r < height → c < 4 * width →
        (draw width height pixel)[4 * (r * width) + c]? = (pixel (c / 4) r).toList[c % 4]? := by
  refine fold_invariant
    (fun m (v : Bytes) => v.size = 4 * (width * m) ∧ ∀ r c, r < m → c < 4 * width →
      v[4 * (r * width) + c]? = (pixel (c / 4) r).toList[c % 4]?)
    (fun y _ v => pushRow width (fun x => pixel x y) v) ⟨rfl, by omega⟩ ?_
  rintro y hy v ⟨hsize, hrows⟩
  obtain ⟨hsize', hold, hnew⟩ := getElem?_pushRow width (fun x => pixel x y) v
  constructor
  · rw [hsize', hsize, Nat.mul_succ]
    omega
  · intro r c hr hc
    rcases Nat.lt_or_eq_of_le (Nat.le_of_lt_succ hr) with above | rfl
    · have old : 4 * (r * width) + c < v.size := by
        rw [hsize]
        exact place_lt above hc
      rw [hold _ old, hrows r c above hc]
    · have new : 4 * (r * width) = v.size := by
        rw [hsize, Nat.mul_comm r]
      rw [new, hnew c hc]

/-! ## Writing in place -/

/-- Overwrites the `len` octets from `start` on; they have to be there, and the part has to
have as many. -/
def splice? (octets : Vector UInt8 n) (start len : Nat) (part : Bytes) : Option (Vector UInt8 n) :=
  if start + len ≤ n ∧ part.size = len then some (splice octets start part) else none

/-- The octets from `start` up to `stop`, which have to be there. -/
def slice? (octets : Bytes) (start stop : Nat) : Option Bytes :=
  if start ≤ stop ∧ stop ≤ octets.size then some (octets.extract start stop) else none

theorem splice?_eq {octets : Vector UInt8 n} {start len : Nat} {part : Bytes}
    (within : start + len ≤ n) (size : part.size = len) :
    splice? octets start len part = some (splice octets start part) := if_pos ⟨within, size⟩

/-- Writes a pixel over four octets, which have to be there, and goes on behind
them. -/
def stamp? (p : Pixel) : Nat × Vector UInt8 n → Option (Nat × Vector UInt8 n)
  | (start, octets) =>
    (splice? octets start 4 p.toList.toArray).map fun octets => (start + 4, octets)

/-- Writes a picture over octets, pixel after pixel from the first octet on. -/
def paint? (width height : Nat) (pixel : Nat → Nat → Pixel) (octets : Vector UInt8 n) :
    Option (Vector UInt8 n) :=
  (height.fold
    (fun y _ acc => width.fold (fun x _ acc => acc.bind (stamp? (pixel x y))) acc)
    (some (0, octets))).map Prod.snd

/-- The octets have been written over with `out` so far, and the next place is the
one behind it. -/
def Overlaid (octets : Vector UInt8 n) (out : Bytes) (state : Option (Nat × Vector UInt8 n)) :
    Prop :=
  ∃ left, state = some (out.size, left) ∧
    left.toArray = out ++ octets.toArray.extract out.size n

theorem Overlaid.stamp {octets : Vector UInt8 n} {out : Bytes}
    {state : Option (Nat × Vector UInt8 n)} (h : Overlaid octets out state)
    (fits : out.size + 4 ≤ n) (p : Pixel) :
    Overlaid octets (push out p) (state.bind (stamp? p)) := by
  obtain ⟨left, rfl, overlaid⟩ := h
  refine ⟨splice left out.size p.toList.toArray, ?_, ?_⟩
  · rw [Option.bind_some, stamp?, splice?_eq fits rfl, size_push]
    rfl
  · apply Array.ext_getElem?
    intro j
    have old : left[j]? = (out ++ octets.toArray.extract out.size n)[j]? := by
      rw [← overlaid, Vector.getElem?_toArray]
    rcases Nat.lt_or_ge j n with hj | hj
    · rw [Vector.getElem?_toArray, getElem?_splice _ _ _ hj, old, push_eq_append]
      simp only [Array.getElem?_append, Array.size_append, Array.getElem?_extract,
        Vector.size_toArray, List.size_toArray, show p.toList.length = 4 from rfl, Nat.min_self]
      by_cases before : j < out.size
      · rw [if_neg (by omega), if_pos before, if_pos (by omega), if_pos before]
      · by_cases here : j < out.size + 4
        · rw [if_pos (by omega), if_pos here, if_neg before]
        · rw [if_neg (by omega), if_neg before, if_neg here, if_pos (by omega), if_pos (by omega)]
          congr 1
          omega
    · rw [Array.getElem?_eq_none (by rw [Vector.size_toArray]; exact hj),
        Array.getElem?_eq_none]
      rw [Array.size_append, Array.size_extract, Vector.size_toArray, size_push]
      omega

/-- One row of a picture, painted from its place on. -/
theorem Overlaid.row {octets : Vector UInt8 n} {out : Bytes}
    {state : Option (Nat × Vector UInt8 n)} (h : Overlaid octets out state) {width : Nat}
    (fits : out.size + 4 * width ≤ n) (pixel : Nat → Pixel) :
    Overlaid octets (pushRow width pixel out)
      (width.fold (fun x _ acc => acc.bind (stamp? (pixel x))) state) := by
  have painted := fold_simulation
    (fun x (row : Bytes) acc => Overlaid octets row acc ∧ row.size = out.size + 4 * x)
    (n := width) (fun x _ row => push row (pixel x)) (fun x _ acc => acc.bind (stamp? (pixel x)))
    ⟨h, rfl⟩ ?_
  · exact painted.1
  · rintro x hx row acc ⟨overlaid, size⟩
    refine ⟨overlaid.stamp (by omega) (pixel x), ?_⟩
    rw [size_push, size]
    omega

/-- **Painting in place is drawing over the beginning.**  If the picture fits, every
pixel finds its four octets, and what is behind the picture stays. -/
theorem paint?_eq {width height : Nat} (pixel : Nat → Nat → Pixel) {octets : Vector UInt8 n}
    (fits : 4 * (width * height) ≤ n) :
    (paint? width height pixel octets).map Vector.toArray =
      some (draw width height pixel ++ octets.toArray.extract (4 * (width * height)) n) := by
  have nothing_yet : Overlaid octets #[] (some (0, octets)) := by
    have all : octets.toArray.extract 0 n = octets.toArray :=
      Array.extract_eq_self_of_le (Nat.le_of_eq octets.size_toArray)
    exact ⟨octets, rfl, all.symm.trans Array.empty_append.symm⟩
  have painted := fold_simulation
    (fun y (out : Bytes) acc => Overlaid octets out acc ∧ out.size = 4 * (y * width))
    (n := height) (fun y _ out => pushRow width (fun x => pixel x y) out)
    (fun y _ acc => width.fold (fun x _ acc => acc.bind (stamp? (pixel x y))) acc)
    ⟨nothing_yet, by simp⟩ ?_
  · obtain ⟨⟨left, done, overlaid⟩, size⟩ := painted
    rw [paint?, done, Option.map_some, Option.map_some, overlaid, size, Nat.mul_comm height]
    rfl
  · rintro y hy out acc ⟨overlaid, size⟩
    have room := stretch_le hy (show 0 + 4 * width ≤ 4 * width by omega)
    refine ⟨overlaid.row (by omega) _, ?_⟩
    rw [(getElem?_pushRow width _ out).1, size, Nat.add_one_mul y, Nat.mul_add]

/-! ## Reading pixels -/

/-- A pixel is read exactly when its four octets are there. -/
theorem pixel?_eq_some_iff (bytes : Bytes) (offset : Nat) (p : Pixel) :
    pixel? bytes offset = some p ↔ ∀ k, k < 4 → bytes[offset + k]? = p.toList[k]? := by
  unfold pixel?
  constructor
  · intro h
    split at h
    · rename_i hb
      obtain rfl := Option.some.inj h
      intro k hk
      rw [Array.getElem?_eq_getElem (by omega)]
      rcases k with _ | _ | _ | _ | k
      · rfl
      · rfl
      · rfl
      · rfl
      · omega
    · exact absurd h (by simp)
  · intro h
    have hb : offset + 4 ≤ bytes.size := by
      refine Nat.le_of_not_lt fun short => ?_
      have last := h 3 (by omega)
      rw [Array.getElem?_eq_none (by omega)] at last
      exact absurd last (by simp [Pixel.toList])
    have h₀ := h 0 (by omega)
    have h₁ := h 1 (by omega)
    have h₂ := h 2 (by omega)
    have h₃ := h 3 (by omega)
    rw [Array.getElem?_eq_getElem (by omega)] at h₀ h₁ h₂ h₃
    rw [dif_pos hb, Option.some.injEq]
    cases p
    simp only [Pixel.toList, Option.some.injEq, List.getElem?_cons_zero, List.getElem?_cons_succ,
      Nat.add_zero] at h₀ h₁ h₂ h₃
    simp only [h₀, h₁, h₂, h₃]

/-- Four octets that are there are a pixel. -/
theorem exists_pixel? {bytes : Bytes} {offset : Nat} (room : offset + 4 ≤ bytes.size) :
    ∃ p, pixel? bytes offset = some p ∧ bytes.extract offset (offset + 4) = p.toList.toArray := by
  have read : pixel? bytes offset = some _ := dif_pos room
  refine ⟨_, read, Array.ext_getElem? fun k => ?_⟩
  rw [Array.getElem?_extract, Nat.min_eq_left room, Nat.add_sub_cancel_left]
  split
  next inside =>
    exact ((pixel?_eq_some_iff bytes offset _).mp read k inside).trans List.getElem?_toArray.symm
  next outside => exact (Array.getElem?_eq_none (Nat.le_of_not_lt outside)).symm

/-- Where the same octets are the same pixel is read. -/
theorem pixel?_congr {a b : Bytes} {i j : Nat} (same : ∀ k, k < 4 → a[i + k]? = b[j + k]?) :
    pixel? a i = pixel? b j := by
  apply Option.ext
  intro p
  rw [pixel?_eq_some_iff, pixel?_eq_some_iff]
  exact forall₂_congr fun k hk => by rw [same k hk]

/-- Every pixel of a drawn picture is read back. -/
theorem pixel?_draw {width height x y : Nat} (hx : x < width) (hy : y < height)
    (pixel : Nat → Nat → Pixel) :
    pixel? (draw width height pixel) (4 * (y * width + x)) = some (pixel x y) := by
  rw [pixel?_eq_some_iff]
  intro k hk
  have column : (4 * x + k) / 4 = x := by omega
  have channel : (4 * x + k) % 4 = k := by omega
  rw [Nat.mul_add, Nat.add_assoc, (getElem?_draw width height pixel).2 y _ hy (by omega), column,
    channel]

/-- A picture in one colour does not depend on where its rows end. -/
theorem draw_const (width height : Nat) (p : Pixel) :
    draw (width * height) 1 (fun _ _ => p) = draw width height fun _ _ => p := by
  obtain ⟨size_row, row⟩ := getElem?_draw (width * height) 1 fun _ _ => p
  obtain ⟨size, rows⟩ := getElem?_draw width height fun _ _ => p
  refine ext (size_row.trans (by rw [Nat.mul_one])) size fun r c hr hc => ?_
  have place := place_lt hr hc
  have octet := row 0 (4 * (r * width) + c) Nat.zero_lt_one place
  rw [Nat.zero_mul, Nat.mul_zero, Nat.zero_add] at octet
  rw [octet, rows r c hr hc, Nat.mul_add_mod]

end Raster

end HandheldHost
