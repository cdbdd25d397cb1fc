import HandheldHost.Checkerboard
import HandheldHost.Proofs.Raster
import Mathlib.Data.Nat.Bitwise

/-!
# The checkerboard and its phase

A tile is eight pixels wide, and two tiles make a period: the checkerboard is the same
again whenever the phase has grown by sixteen, and the other way round when it has grown
by eight.

* `Checkerboard.shade_eq` -- a tile is dark when the sum of its numbers is even.
* `Checkerboard.shade_exchange`, `Checkerboard.shade_add_ofNat` -- the shades half a period
  further on, and any number of columns further on.
* `Checkerboard.picture_congr` -- the phase counts modulo sixteen.
* `Checkerboard.pixel?_picture` -- the pixels.
* `Checkerboard.write?_eq_some` -- what a buffer holds once it has been written.
* `Checkerboard.write_shifts_with_phase` -- all of it, for any buffer, size and phase.
-/

namespace HandheldHost.Checkerboard

/-! ## Shades -/

theorem shade_eq (x y phase : Nat) :
    shade x y phase = if ((x + phase) / 8 + y / 8) % 2 = 0 then 0x20 else 0xE0 := by
  rw [shade, Nat.and_one_is_mod, Nat.xor_mod_two_eq, Nat.shiftRight_eq_div_pow,
    Nat.shiftRight_eq_div_pow]

theorem shade_congr {p q : Nat} (same : p % 16 = q % 16) (x y : Nat) :
    shade x y p = shade x y q := by
  have tiles : ((x + p) / 8 + y / 8) % 2 = ((x + q) / 8 + y / 8) % 2 := by omega
  rw [shade_eq, shade_eq, tiles]

/-- A tile further on, every shade is the other one. -/
theorem shade_exchange {p q : Nat} (apart : q % 16 = (p + 8) % 16) (x y : Nat) :
    (shade x y p = 0x20 ∧ shade x y q = 0xE0) ∨ (shade x y p = 0xE0 ∧ shade x y q = 0x20) := by
  rw [shade_eq, shade_eq]
  rcases Nat.mod_two_eq_zero_or_one ((x + p) / 8 + y / 8) with even | odd
  · exact .inl ⟨if_pos even, if_neg (by omega)⟩
  · exact .inr ⟨if_neg (by omega), if_pos (by omega)⟩

/-- The phase moves the picture to the left. -/
theorem shade_add (x y phase k : Nat) : shade x y (phase + k) = shade (x + k) y phase := by
  rw [shade_eq, shade_eq, Nat.add_right_comm x k phase, Nat.add_assoc]

/-- A 32-bit phase that goes up beyond its largest value wraps at a multiple of the
period. -/
theorem shade_add_ofNat (x y : Nat) (phase : UInt32) (k : Nat) :
    shade x y (phase + UInt32.ofNat k).toNat = shade (x + k) y phase.toNat := by
  have same : (phase + UInt32.ofNat k).toNat % 16 = (phase.toNat + k) % 16 := by
    rw [UInt32.toNat_add, UInt32.toNat_ofNat']
    omega
  rw [shade_congr same, shade_add]

/-! ## Pictures -/

theorem picture_congr {p q : Nat} (same : p % 16 = q % 16) (width height : Nat) :
    picture width height p = picture width height q := by
  simp only [picture, shade_congr same]

theorem size_picture (width height phase : Nat) :
    (picture width height phase).size = 4 * (width * height) :=
  (Raster.getElem?_draw _ _ _).1

theorem pixel?_picture {width height x y : Nat} (hx : x < width) (hy : y < height) (phase : Nat) :
    Raster.pixel? (picture width height phase) (4 * (y * width + x)) =
      some (.grey (shade x y phase)) :=
  Raster.pixel?_draw hx hy _

/-! ## Buffers -/

/-- The octets of a buffer once a picture has been written over its beginning. -/
def written (buffer : Bytes) (width height phase : Nat) : Bytes :=
  picture width height phase ++ buffer.extract (4 * (width * height)) buffer.size

section

variable {buffer : Bytes} {width height : UInt16}

theorem write?_eq_none (short : buffer.size < 4 * (width.toNat * height.toNat)) (phase : UInt32) :
    write? buffer width height phase = none :=
  if_pos (by omega)

theorem write?_eq_some (fits : 4 * (width.toNat * height.toNat) ≤ buffer.size) (phase : UInt32) :
    write? buffer width height phase =
      some (written buffer width.toNat height.toNat phase.toNat) := by
  rw [written, Nat.mul_comm 4]
  exact if_neg (by omega)

end

section

variable {buffer : Bytes} {width height : Nat}

theorem size_written (fits : 4 * (width * height) ≤ buffer.size) (phase : Nat) :
    (written buffer width height phase).size = buffer.size := by
  rw [written, Array.size_append, size_picture, Array.size_extract]
  omega

/-- Behind the picture nothing is different. -/
theorem getElem?_written_of_le {i : Nat} (behind : 4 * (width * height) ≤ i) (phase : Nat) :
    (written buffer width height phase)[i]? = buffer[i]? := by
  rw [written, Array.getElem?_append_right (by rw [size_picture]; exact behind), size_picture,
    Array.getElem?_extract, Nat.add_sub_cancel' behind]
  split
  · rfl
  · exact (Array.getElem?_eq_none (by omega)).symm

theorem pixel?_written {x y : Nat} (hx : x < width) (hy : y < height) (phase : Nat) :
    Raster.pixel? (written buffer width height phase) (4 * (y * width + x)) =
      some (.grey (shade x y phase)) := by
  rw [← pixel?_picture hx hy phase]
  refine Raster.pixel?_congr fun k hk => ?_
  have inside := Raster.place_lt hy (show 4 * x + k < 4 * width by omega)
  rw [written, Array.getElem?_append_left]
  rw [size_picture]
  omega

end

/-- **The checkerboard is exact and moves with its phase.**  Take any buffer, any size of
the picture and any phase.  The buffer is written if it has four octets for each pixel, and
otherwise it stays as it is.  Once it has been written, pixel `(x, y)` is opaque and grey,
dark if the sum of `(x + phase) / 8` and `y / 8` is even and light if it is odd; the
octets behind the picture are what they were, and there are as many as before.  It is what
comes of writing pixel after pixel in place, where every pixel finds its four octets.
Phases that are equal modulo 16 give the same buffer; in phases that differ by 8 modulo 16
all shades are exchanged; and when the phase goes up by `k`, also beyond its largest value,
each pixel becomes the one that was `k` places to the right of it. -/
theorem write_shifts_with_phase (buffer : Bytes) (width height : UInt16) (phase : UInt32) :
    let w := width.toNat
    let h := height.toNat
    let left (p : UInt32) := (write? buffer width height p).getD buffer
    let pixel (p : UInt32) (x y : Nat) := Raster.pixel? (left p) (4 * (y * w + x))
    ((write? buffer width height phase).isSome ↔ 4 * (w * h) ≤ buffer.size) ∧
      (buffer.size < 4 * (w * h) → left phase = buffer) ∧
      (4 * (w * h) ≤ buffer.size →
        (∀ x y, x < w → y < h →
          let v := if ((x + phase.toNat) / 8 + y / 8) % 2 = 0 then 0x20 else 0xE0
          pixel phase x y = some ⟨v, v, v, 0xFF⟩) ∧
        (left phase).size = buffer.size ∧
        (∀ i, 4 * (w * h) ≤ i → (left phase)[i]? = buffer[i]?) ∧
        (Raster.paint? w h (fun x y => .grey (shade x y phase.toNat)) buffer.toVector).map
          Vector.toArray = some (left phase) ∧
        (∀ other : UInt32, other.toNat % 16 = (phase.toNat + 8) % 16 → ∀ x y, x < w → y < h →
          (pixel phase x y = some (.grey 0x20) ∧ pixel other x y = some (.grey 0xE0)) ∨
            (pixel phase x y = some (.grey 0xE0) ∧ pixel other x y = some (.grey 0x20))) ∧
        ∀ k x y, x + k < w → y < h → pixel (phase + UInt32.ofNat k) x y = pixel phase (x + k) y) ∧
      ∀ other : UInt32, other.toNat % 16 = phase.toNat % 16 →
        write? buffer width height other = write? buffer width height phase := by
  intro w h left pixel
  rcases Nat.lt_or_ge buffer.size (4 * (w * h)) with short | fits
  · have refused (p : UInt32) : write? buffer width height p = none := write?_eq_none short p
    refine ⟨?_, fun _ => ?_, fun fits => absurd fits (Nat.not_le.mpr short), fun other _ => ?_⟩
    · rw [refused]
      exact iff_of_false nofun (Nat.not_le.mpr short)
    · show (write? buffer width height phase).getD buffer = buffer
      rw [refused]
      rfl
    · rw [refused, refused]
  · have done (p : UInt32) : write? buffer width height p = some (written buffer w h p.toNat) :=
      write?_eq_some fits p
    have left_eq (p : UInt32) : left p = written buffer w h p.toNat := by
      show (write? buffer width height p).getD buffer = _
      rw [done]
      rfl
    have shown (p : UInt32) {x y : Nat} (hx : x < w) (hy : y < h) :
        pixel p x y = some (.grey (shade x y p.toNat)) := by
      show Raster.pixel? (left p) _ = _
      rw [left_eq]
      exact pixel?_written hx hy p.toNat
    refine ⟨?_, fun short => absurd fits (Nat.not_le.mpr short),
      fun _ => ⟨?_, ?_, ?_, ?_, ?_, ?_⟩, ?_⟩
    · rw [done]
      exact iff_of_true rfl fits
    · intro x y hx hy v
      rw [shown phase hx hy, shade_eq]
      rfl
    · rw [left_eq]
      exact size_written fits phase.toNat
    · intro i behind
      rw [left_eq]
      exact getElem?_written_of_le behind phase.toNat
    · rw [left_eq]
      exact Raster.paint?_eq _ fits
    · intro other apart x y hx hy
      rw [shown phase hx hy, shown other hx hy]
      rcases shade_exchange apart x y with ⟨dark, light⟩ | ⟨light, dark⟩
      · exact .inl ⟨by rw [dark], by rw [light]⟩
      · exact .inr ⟨by rw [light], by rw [dark]⟩
    · intro k x y hx hy
      rw [shown _ (by omega) hy, shown phase hx hy, shade_add_ofNat]
    · intro other same
      rw [done, done, written, picture_congr same, written]

/-- A buffer with two octets more than a picture of two tiles needs, written in the last
phase, in the first, which comes after it, and half a period before; and a buffer that is
too short. -/
theorem write_shifts_past_last_phase :
    let buffer : Bytes := Array.replicate 514 7
    let left (p : UInt32) := (write? buffer 16 8 p).getD buffer
    let pixel (p : UInt32) (x y : Nat) := Raster.pixel? (left p) (4 * (y * 16 + x))
    (write? buffer 16 8 0xFFFFFFFF).isSome ∧ pixel 0xFFFFFFFF 0 0 = some (.grey 0xE0) ∧
      pixel 0 0 0 = pixel 0xFFFFFFFF 1 0 ∧ pixel 7 0 0 = some (.grey 0x20) ∧
      (left 0xFFFFFFFF)[513]? = some 7 ∧
      write? buffer 16 8 15 = write? buffer 16 8 0xFFFFFFFF ∧
      (write? (Array.replicate 10 7) 4 4 0).getD (Array.replicate 10 7) = Array.replicate 10 7 := by
  intro buffer left pixel
  have room : 4 * (16 * 8) ≤ buffer.size := by
    rw [Array.size_replicate]
    decide
  obtain ⟨done, _, full, period⟩ := write_shifts_with_phase buffer 16 8 0xFFFFFFFF
  obtain ⟨shades, _, behind, _, exchange, shift⟩ := full room
  obtain ⟨_, short, _, _⟩ := write_shifts_with_phase (Array.replicate 10 7) 4 4 0
  have light : pixel 0xFFFFFFFF 0 0 = some (.grey 0xE0) := shades 0 0 (by decide) (by decide)
  refine ⟨done.mpr room, light, shift 1 0 0 (by decide) (by decide), ?_, ?_,
    period 15 (by decide), short (by rw [Array.size_replicate]; decide)⟩
  · rcases exchange 7 (by decide) 0 0 (by decide) (by decide) with ⟨dark, _⟩ | ⟨_, dark⟩
    · exact absurd (light.symm.trans dark) (by decide)
    · exact dark
  · rw [behind 513 (by decide), Array.getElem?_replicate, if_pos (by decide)]

end HandheldHost.Checkerboard
