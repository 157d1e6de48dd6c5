import Mathlib.Algebra.Ring.Nat
import Mathlib.Data.List.Basic

/-!
# Records of bytes

Byte strings that are read and written at offsets: windows, copies into a buffer, numbers
with the most significant byte first, and buffers filled field by field.
-/

namespace Proc17.Layout

open List Nat

/-! ## Windows -/

/-- The `n` bytes at an offset. -/
def window (buffer : List UInt8) (offset n : Nat) : List UInt8 := (buffer.drop offset).take n

variable {n offset i : Nat} {data : List UInt8} {buffer : List UInt8}

theorem length_window (inside : offset + n ≤ buffer.length) :
    (window buffer offset n).length = n := by
  simp only [window, length_take, length_drop]
  omega

theorem getElem?_window (buffer : List UInt8) (offset n i : Nat) :
    (window buffer offset n)[i]? = if i < n then buffer[offset + i]? else none := by
  rw [window, List.getElem?_take]
  split
  · rw [List.getElem?_drop]
  · rfl

theorem window_window {offset' m : Nat} (buffer : List UInt8) (inside : offset' + m ≤ n) :
    window (window buffer offset n) offset' m = window buffer (offset + offset') m := by
  apply ext_getElem?
  intro i
  simp only [getElem?_window]
  split
  · rw [if_pos (by omega), add_assoc]
  · rfl

theorem window_zero (whole : buffer.length = n) :
    window buffer 0 n = buffer := by
  simp [window, ← whole]

section

variable (left right : List UInt8)

theorem window_append_left (inside : offset + n ≤ left.length) :
    window (left ++ right) offset n = window left offset n := by
  apply ext_getElem?
  intro i
  simp only [getElem?_window]
  split
  · rw [List.getElem?_append_left (by omega)]
  · rfl

theorem window_append_beyond (beyond : left.length ≤ offset) :
    window (left ++ right) offset n = window right (offset - left.length) n := by
  rw [window, window, drop_append, drop_of_length_le beyond, nil_append]

theorem window_append_right :
    window (left ++ right) left.length right.length = right := by
  simp [window]

end

@[ext]
structure Octets (n : Nat) where
  bytes : List UInt8
  width : bytes.length = n

namespace Octets

def read (buffer : List UInt8) (offset n : Nat) (inside : offset + n ≤ buffer.length) : Octets n :=
  ⟨window buffer offset n, length_window inside⟩

end Octets

/-! ## Copies into a buffer -/

def write (buffer : List UInt8) (offset : Nat) (data : List UInt8) : List UInt8 :=
  buffer.take offset ++ data ++ buffer.drop (offset + data.length)

theorem length_write (inside : offset + data.length ≤ buffer.length) :
    (write buffer offset data).length = buffer.length := by
  simp only [write, length_append, length_take, length_drop]
  omega

theorem getElem?_write (inside : offset + data.length ≤ buffer.length)
    (i : Nat) :
    (write buffer offset data)[i]?
      = if offset ≤ i ∧ i < offset + data.length then data[i - offset]? else buffer[i]? := by
  have front : (buffer.take offset).length = offset := by
    simp only [length_take]
    omega
  rw [write, append_assoc, List.getElem?_append, front]
  split
  · rename_i before
    rw [if_neg (by omega), List.getElem?_take, if_pos before]
  · rename_i behind
    rw [List.getElem?_append]
    split
    · rw [if_pos (by omega)]
    · rw [if_neg (by omega), List.getElem?_drop]
      congr 1
      omega

/-! ## Numbers, the most significant byte first -/

def bigEndian : Nat → Nat → List UInt8
  | 0, _ => []
  | n + 1, value => UInt8.ofNat (value / 256 ^ n) :: bigEndian n value

def fromBigEndian (bytes : List UInt8) : Nat := bytes.foldl (fun value b => value * 256 + b.toNat) 0

@[simp] theorem length_bigEndian (n value : Nat) : (bigEndian n value).length = n := by
  induction n with
  | zero => rfl
  | succ n ih => simp [bigEndian, ih]

theorem foldl_bigEndian (n value : Nat) : ∀ start : Nat,
    (bigEndian n value).foldl (fun acc b => acc * 256 + b.toNat) start
      = start * 256 ^ n + value % 256 ^ n := by
  induction n with
  | zero =>
    intro start
    simp [bigEndian, mod_one]
  | succ n ih =>
    intro start
    have digit : (UInt8.ofNat (value / 256 ^ n)).toNat = value / 256 ^ n % 256 := by simp
    have whole : value % 256 ^ (n + 1) = value / 256 ^ n % 256 * 256 ^ n + value % 256 ^ n := by
      rw [pow_succ, mod_mul]
      rw [mul_comm, add_comm]
    rw [bigEndian, foldl_cons, ih, digit, whole, add_mul, pow_succ, mul_assoc,
      mul_comm 256, add_assoc]

theorem fromBigEndian_bigEndian (n value : Nat) :
    fromBigEndian (bigEndian n value) = value % 256 ^ n := by
  rw [fromBigEndian, foldl_bigEndian]
  simp

theorem foldl_fromBigEndian (bytes : List UInt8) : ∀ start : Nat,
    bytes.foldl (fun acc b => acc * 256 + b.toNat) start
      = start * 256 ^ bytes.length + fromBigEndian bytes := by
  induction bytes with
  | nil =>
    intro start
    simp [fromBigEndian]
  | cons b rest ih =>
    intro start
    have first : fromBigEndian (b :: rest) = b.toNat * 256 ^ rest.length + fromBigEndian rest := by
      rw [fromBigEndian, foldl_cons, ih, zero_mul, zero_add]
    rw [foldl_cons, ih, first, length_cons, pow_succ, add_mul, mul_assoc, mul_comm 256, add_assoc]

theorem fromBigEndian_cons (b : UInt8) (rest : List UInt8) :
    fromBigEndian (b :: rest) = b.toNat * 256 ^ rest.length + fromBigEndian rest := by
  rw [fromBigEndian, foldl_cons, foldl_fromBigEndian, zero_mul, zero_add]

theorem fromBigEndian_lt (bytes : List UInt8) : fromBigEndian bytes < 256 ^ bytes.length := by
  induction bytes with
  | nil => decide
  | cons b rest ih =>
    have small : b.toNat < 256 := b.toNat_lt
    rw [fromBigEndian_cons, length_cons, pow_succ]
    have most : b.toNat * 256 ^ rest.length + 256 ^ rest.length ≤ 256 ^ rest.length * 256 := by
      calc b.toNat * 256 ^ rest.length + 256 ^ rest.length
          = (b.toNat + 1) * 256 ^ rest.length := by rw [add_mul, one_mul]
        _ ≤ 256 * 256 ^ rest.length := mul_le_mul_right _ small
        _ = 256 ^ rest.length * 256 := mul_comm _ _
    omega

theorem bigEndian_fromBigEndian (bytes : List UInt8) :
    bigEndian bytes.length (fromBigEndian bytes) = bytes := by
  have shifted : ∀ (n value more : Nat), bigEndian n (value + more * 256 ^ n) = bigEndian n value := by
    intro n
    induction n with
    | zero =>
      intro value more
      rfl
    | succ n ih =>
      intro value more
      have split : value + more * 256 ^ (n + 1) = value + more * 256 * 256 ^ n := by
        rw [pow_succ, mul_assoc, mul_comm 256]
      have digit : (value + more * 256 * 256 ^ n) / 256 ^ n = value / 256 ^ n + more * 256 :=
        add_mul_div_right _ _ (Nat.pow_pos (by decide))
      rw [bigEndian, bigEndian, split, ih, digit]
      congr 1
      apply UInt8.toNat_inj.mp
      simp
  induction bytes with
  | nil => rfl
  | cons b rest ih =>
    have value : fromBigEndian (b :: rest) = fromBigEndian rest + b.toNat * 256 ^ rest.length := by
      rw [fromBigEndian_cons, add_comm]
    have digit : (fromBigEndian rest + b.toNat * 256 ^ rest.length) / 256 ^ rest.length = b.toNat := by
      rw [add_mul_div_right _ _ (Nat.pow_pos (by decide)),
        div_eq_of_lt (fromBigEndian_lt rest), zero_add]
    rw [length_cons, bigEndian, value, shifted, ih, digit, UInt8.ofNat_toNat]

/-! ## Buffers filled field by field -/

def fill (size : Nat) (fields : List (Nat × List UInt8)) : List UInt8 :=
  fields.foldl (fun buffer field => write buffer field.1 field.2) (List.replicate size 0)

def spans (fields : List (Nat × List UInt8)) : List (Nat × Nat) :=
  fields.map fun field => (field.1, field.2.length)

def Apart (size : Nat) (layout : List (Nat × Nat)) : Prop :=
  (∀ span ∈ layout, span.1 + span.2 ≤ size)
    ∧ layout.Pairwise fun s t => s.1 + s.2 ≤ t.1 ∨ t.1 + t.2 ≤ s.1

instance (size : Nat) (layout : List (Nat × Nat)) : Decidable (Apart size layout) :=
  inferInstanceAs (Decidable (_ ∧ _))

def Covered (layout : List (Nat × Nat)) (i : Nat) : Prop :=
  ∃ span ∈ layout, span.1 ≤ i ∧ i < span.1 + span.2

instance (layout : List (Nat × Nat)) (i : Nat) : Decidable (Covered layout i) :=
  inferInstanceAs (Decidable (∃ span ∈ layout, _))

section
variable {fields : List (Nat × List UInt8)}

section
variable (within : ∀ span ∈ spans fields, span.1 + span.2 ≤ buffer.length)
include within

theorem length_foldl_write :
    (fields.foldl (fun buffer field => write buffer field.1 field.2) buffer).length
      = buffer.length := by
  induction fields generalizing buffer with
  | nil => rfl
  | cons field rest ih =>
    have kept : (write buffer field.1 field.2).length = buffer.length :=
      length_write (within (field.1, field.2.length) (by simp [spans]))
    rw [foldl_cons, ih, kept]
    intro span member
    rw [kept]
    exact within span (mem_cons_of_mem _ member)

theorem getElem?_foldl_outside (outside : ¬ Covered (spans fields) i) :
    (fields.foldl (fun buffer field => write buffer field.1 field.2) buffer)[i]? = buffer[i]? := by
  induction fields generalizing buffer with
  | nil => rfl
  | cons field rest ih =>
    have inside := within (field.1, field.2.length) (by simp [spans])
    have away : ¬ (field.1 ≤ i ∧ i < field.1 + field.2.length) := fun here =>
      outside ⟨(field.1, field.2.length), by simp [spans], here⟩
    rw [foldl_cons, ih, getElem?_write inside, if_neg away]
    · intro span member
      rw [length_write inside]
      exact within span (mem_cons_of_mem _ member)
    · rintro ⟨span, member, here⟩
      exact outside ⟨span, mem_cons_of_mem _ member, here⟩

theorem getElem?_foldl_inside
    (apart : (spans fields).Pairwise fun s t => s.1 + s.2 ≤ t.1 ∨ t.1 + t.2 ≤ s.1)
    (member : (offset, data) ∈ fields) (small : i < data.length) :
    (fields.foldl (fun buffer field => write buffer field.1 field.2) buffer)[offset + i]?
      = data[i]? := by
  induction fields generalizing buffer with
  | nil => cases member
  | cons field rest ih =>
    have inside := within (field.1, field.2.length) (by simp [spans])
    have later : ∀ span ∈ spans rest, span.1 + span.2 ≤ (write buffer field.1 field.2).length := by
      intro span there
      rw [length_write inside]
      exact within span (mem_cons_of_mem _ there)
    obtain ⟨first, others⟩ := pairwise_cons.mp apart
    rw [foldl_cons]
    rcases mem_cons.mp member with rfl | there
    · have untouched : ¬ Covered (spans rest) (offset + i) := by
        rintro ⟨span, there, low, high⟩
        have separate := first span there
        simp only at separate
        omega
      rw [getElem?_foldl_outside later untouched, getElem?_write inside,
        if_pos ⟨le_add_right _ _, Nat.add_lt_add_left small _⟩, Nat.add_sub_cancel_left]
    · exact ih later others there

end

end

section
variable {size : Nat} {fields : List (Nat × List UInt8)} {layout : List (Nat × Nat)}
  (shape : spans fields = layout) (apart : Apart size layout)
include shape apart

theorem length_fill : (fill size fields).length = size := by
  subst shape
  rw [fill, length_foldl_write, length_replicate]
  simpa using apart.1

theorem window_fill (member : (offset, data) ∈ fields) {k : Nat} (inside : k + n ≤ data.length) :
    window (fill size fields) (offset + k) n = window data k n := by
  subst shape
  apply ext_getElem?
  intro i
  simp only [getElem?_window]
  split
  · rw [fill, add_assoc, getElem?_foldl_inside (by simpa using apart.1) apart.2 member
      (by omega)]
  · rfl

theorem window_fill_field (member : (offset, data) ∈ fields) (width : data.length = n) :
    window (fill size fields) offset n = data := by
  have whole := window_fill shape apart member (le_of_eq (by rw [zero_add, width]) : 0 + n ≤ _)
  rw [add_zero, window_zero width] at whole
  exact whole

theorem getElem?_fill_outside (outside : ¬ Covered layout i) (small : i < size) :
    (fill size fields)[i]? = some 0 := by
  subst shape
  rw [fill, getElem?_foldl_outside (by simpa using apart.1) outside, List.getElem?_replicate,
    if_pos small]

theorem window_fill_outside (inside : offset + n ≤ size)
    (outside : ∀ i, offset ≤ i → i < offset + n → ¬ Covered layout i) :
    window (fill size fields) offset n = List.replicate n 0 := by
  apply ext_getElem?
  intro i
  rw [getElem?_window, List.getElem?_replicate]
  split
  · exact getElem?_fill_outside shape apart (outside _ (by omega) (by omega)) (by omega)
  · rfl

theorem fill_eq {bytes : List UInt8} (length : bytes.length = size)
    (fieldwise : ∀ field ∈ fields, window bytes field.1 field.2.length = field.2)
    (elsewhere : ∀ i, i < size → ¬ Covered layout i → bytes[i]? = some 0) :
    fill size fields = bytes := by
  apply ext_getElem?
  intro i
  by_cases small : i < size
  · by_cases covered : Covered layout i
    · obtain ⟨span, there, low, high⟩ := covered
      rw [← shape] at there
      obtain ⟨⟨offset, data⟩, member, rfl⟩ := mem_map.mp there
      obtain ⟨k, rfl⟩ := Nat.exists_eq_add_of_le low
      have here : k < data.length := by
        simp only at high
        omega
      have same := congrArg (fun bytes => bytes[k]?) (fieldwise (offset, data) member)
      simp only [getElem?_window, if_pos here] at same
      have within := apart.1
      rw [← shape] at within
      rw [fill, same, getElem?_foldl_inside (by simpa using within) (shape ▸ apart.2) member here]
    · rw [getElem?_fill_outside shape apart covered small, elsewhere i small covered]
  · rw [List.getElem?_eq_none (by rw [length_fill shape apart]; omega),
      List.getElem?_eq_none (by omega)]

end

end Proc17.Layout
