import Mathlib.Data.List.Forall2

/-!
# Well-formed UTF-8

The well-formed byte sequences by Table 3-7 of the Unicode Standard, and that they are the
encodings of scalar values.
-/

namespace Proc17.Unicode

open List

/-- The rows of Table 3-7: the ranges of the bytes of a sequence. -/
def table : List (List (Nat × Nat)) :=
  [[(0x00, 0x7F)],
    [(0xC2, 0xDF), (0x80, 0xBF)],
    [(0xE0, 0xE0), (0xA0, 0xBF), (0x80, 0xBF)],
    [(0xE1, 0xEC), (0x80, 0xBF), (0x80, 0xBF)],
    [(0xED, 0xED), (0x80, 0x9F), (0x80, 0xBF)],
    [(0xEE, 0xEF), (0x80, 0xBF), (0x80, 0xBF)],
    [(0xF0, 0xF0), (0x90, 0xBF), (0x80, 0xBF), (0x80, 0xBF)],
    [(0xF1, 0xF3), (0x80, 0xBF), (0x80, 0xBF), (0x80, 0xBF)],
    [(0xF4, 0xF4), (0x80, 0x8F), (0x80, 0xBF), (0x80, 0xBF)]]

def Within (range : Nat × Nat) (b : UInt8) : Prop := range.1 ≤ b.toNat ∧ b.toNat ≤ range.2

def Sequence (bytes : List UInt8) : Prop := ∃ row ∈ table, List.Forall₂ Within row bytes

def WellFormed (bytes : List UInt8) : Prop :=
  ∃ sequences : List (List UInt8), (∀ s ∈ sequences, Sequence s) ∧ bytes = sequences.flatten

theorem wellFormed_nil : WellFormed [] := ⟨[], forall_mem_nil _, rfl⟩

theorem WellFormed.cons {s rest : List UInt8} (first : Sequence s) (later : WellFormed rest) :
    WellFormed (s ++ rest) := by
  obtain ⟨sequences, each, rfl⟩ := later
  exact ⟨s :: sequences, forall_mem_cons.mpr ⟨first, each⟩, rfl⟩

/-! ## Sequences by their length -/

def Continues (b : UInt8) : Prop := 0x80 ≤ b.toNat ∧ b.toNat ≤ 0xBF

/-- The second byte of three: after E0 no overlong form, after ED no surrogate. -/
def SecondOfThree (a b : UInt8) : Prop :=
  Continues b ∧ (a.toNat = 0xE0 → 0xA0 ≤ b.toNat) ∧ (a.toNat = 0xED → b.toNat ≤ 0x9F)

/-- The second byte of four: after F0 no overlong form, after F4 nothing above U+10FFFF. -/
def SecondOfFour (a b : UInt8) : Prop :=
  Continues b ∧ (a.toNat = 0xF0 → 0x90 ≤ b.toNat) ∧ (a.toNat = 0xF4 → b.toNat ≤ 0x8F)

theorem within_of_eq {a : UInt8} {n : Nat} (same : a.toNat = n) : Within (n, n) a :=
  ⟨Nat.le_of_eq same.symm, Nat.le_of_eq same⟩

theorem sequence_one {a : UInt8} (low : a.toNat ≤ 0x7F) : Sequence [a] :=
  ⟨[(0x00, 0x7F)], by simp [table], .cons ⟨Nat.zero_le _, low⟩ .nil⟩

theorem sequence_two {a b : UInt8} (lead : 0xC2 ≤ a.toNat ∧ a.toNat ≤ 0xDF) (second : Continues b) :
    Sequence [a, b] :=
  ⟨[(0xC2, 0xDF), (0x80, 0xBF)], by simp [table], .cons lead (.cons second .nil)⟩

theorem sequence_three {a b c : UInt8} (lead : 0xE0 ≤ a.toNat ∧ a.toNat ≤ 0xEF)
    (second : SecondOfThree a b) (third : Continues c) : Sequence [a, b, c] := by
  obtain ⟨⟨low, high⟩, long, surrogate⟩ := second
  have fits (first second' : Nat × Nat) (row : [first, second', (0x80, 0xBF)] ∈ table)
      (here : Within first a) (there : Within second' b) : Sequence [a, b, c] :=
    ⟨_, row, .cons here (.cons there (.cons third .nil))⟩
  by_cases least : a.toNat = 0xE0
  · exact fits (0xE0, 0xE0) (0xA0, 0xBF) (by simp [table]) (within_of_eq least) ⟨long least, high⟩
  · by_cases odd : a.toNat = 0xED
    · exact fits (0xED, 0xED) (0x80, 0x9F) (by simp [table]) (within_of_eq odd) ⟨low, surrogate odd⟩
    · by_cases small : a.toNat ≤ 0xEC
      · exact fits (0xE1, 0xEC) (0x80, 0xBF) (by simp [table]) ⟨by simp only; omega, small⟩
          ⟨low, high⟩
      · exact fits (0xEE, 0xEF) (0x80, 0xBF) (by simp [table]) ⟨by simp only; omega, lead.2⟩
          ⟨low, high⟩

theorem sequence_four {a b c d : UInt8} (lead : 0xF0 ≤ a.toNat ∧ a.toNat ≤ 0xF4)
    (second : SecondOfFour a b) (third : Continues c) (fourth : Continues d) :
    Sequence [a, b, c, d] := by
  obtain ⟨⟨low, high⟩, long, large⟩ := second
  have fits (first second' : Nat × Nat) (row : [first, second', (0x80, 0xBF), (0x80, 0xBF)] ∈ table)
      (here : Within first a) (there : Within second' b) : Sequence [a, b, c, d] :=
    ⟨_, row, .cons here (.cons there (.cons third (.cons fourth .nil)))⟩
  by_cases least : a.toNat = 0xF0
  · exact fits (0xF0, 0xF0) (0x90, 0xBF) (by simp [table]) (within_of_eq least) ⟨long least, high⟩
  · by_cases last : a.toNat = 0xF4
    · exact fits (0xF4, 0xF4) (0x80, 0x8F) (by simp [table]) (within_of_eq last) ⟨low, large last⟩
    · exact fits (0xF1, 0xF3) (0x80, 0xBF) (by simp [table])
        ⟨by simp only; omega, by simp only; omega⟩ ⟨low, high⟩

variable {bytes : List UInt8}

theorem three_of_row {first second : Nat × Nat}
    (fits : List.Forall₂ Within [first, second, (0x80, 0xBF)] bytes) :
    ∃ a b c, bytes = [a, b, c] ∧ Within first a ∧ Within second b ∧ Continues c := by
  obtain _ | ⟨one, _ | ⟨two, _ | ⟨three, _ | _⟩⟩⟩ := fits
  exact ⟨_, _, _, rfl, one, two, three⟩

theorem four_of_row {first second : Nat × Nat}
    (fits : List.Forall₂ Within [first, second, (0x80, 0xBF), (0x80, 0xBF)] bytes) :
    ∃ a b c d, bytes = [a, b, c, d] ∧ Within first a ∧ Within second b ∧ Continues c
      ∧ Continues d := by
  obtain _ | ⟨one, _ | ⟨two, _ | ⟨three, _ | ⟨four, _ | _⟩⟩⟩⟩ := fits
  exact ⟨_, _, _, _, rfl, one, two, three, four⟩

theorem sequence_cases (fits : Sequence bytes) :
    (∃ a, bytes = [a] ∧ a.toNat ≤ 0x7F)
      ∨ (∃ a b, bytes = [a, b] ∧ (0xC2 ≤ a.toNat ∧ a.toNat ≤ 0xDF) ∧ Continues b)
      ∨ (∃ a b c, bytes = [a, b, c] ∧ (0xE0 ≤ a.toNat ∧ a.toNat ≤ 0xEF) ∧ SecondOfThree a b
        ∧ Continues c)
      ∨ (∃ a b c d, bytes = [a, b, c, d] ∧ (0xF0 ≤ a.toNat ∧ a.toNat ≤ 0xF4) ∧ SecondOfFour a b
        ∧ Continues c ∧ Continues d) := by
  obtain ⟨row, member, fits⟩ := fits
  simp only [table, mem_cons, not_mem_nil, or_false] at member
  rcases member with rfl | rfl | rfl | rfl | rfl | rfl | rfl | rfl | rfl
  · obtain _ | ⟨one, _ | _⟩ := fits
    exact .inl ⟨_, rfl, one.2⟩
  · obtain _ | ⟨one, _ | ⟨two, _ | _⟩⟩ := fits
    exact .inr (.inl ⟨_, _, rfl, one, two⟩)
  iterate 4
    · obtain ⟨a, b, c, rfl, one, two, three⟩ := three_of_row fits
      refine .inr (.inr (.inl ⟨a, b, c, rfl, ?_⟩))
      simp only [Within, SecondOfThree, Continues] at one two three ⊢
      omega
  iterate 3
    · obtain ⟨a, b, c, d, rfl, one, two, three, four⟩ := four_of_row fits
      refine .inr (.inr (.inr ⟨a, b, c, d, rfl, ?_⟩))
      simp only [Within, SecondOfFour, Continues] at one two three four ⊢
      omega

/-! ## Sequences as encodings -/

theorem toNat_ofNat {n : Nat} (small : n < 256) : (UInt8.ofNat n).toNat = n := by
  rw [UInt8.toNat_ofNat']
  exact Nat.mod_eq_of_lt small

theorem sequence_encode (c : Char) : Sequence (String.utf8EncodeChar c) := by
  have valid : c.val.toNat < 0xD800 ∨ 0xDFFF < c.val.toNat ∧ c.val.toNat < 0x110000 := c.valid
  unfold String.utf8EncodeChar
  simp only
  generalize c.val.toNat = v at valid ⊢
  split
  · apply sequence_one
    rw [toNat_ofNat (by omega)]
    omega
  · split
    · apply sequence_two
      · rw [toNat_ofNat (by omega)]
        omega
      · unfold Continues
        rw [toNat_ofNat (by omega)]
        omega
    · split
      · apply sequence_three
        · rw [toNat_ofNat (by omega)]
          omega
        · unfold SecondOfThree Continues
          rw [toNat_ofNat (by omega), toNat_ofNat (by omega)]
          omega
        · unfold Continues
          rw [toNat_ofNat (by omega)]
          omega
      · apply sequence_four
        · rw [toNat_ofNat (by omega)]
          omega
        · unfold SecondOfFour Continues
          rw [toNat_ofNat (by omega), toNat_ofNat (by omega)]
          omega
        · unfold Continues
          rw [toNat_ofNat (by omega)]
          omega
        · unfold Continues
          rw [toNat_ofNat (by omega)]
          omega

def scalar (v : Nat) (valid : v.isValidChar) : Char := Char.ofNatAux v valid

theorem scalar_toNat (v : Nat) (valid : v.isValidChar) : (scalar v valid).val.toNat = v := by
  show (UInt32.ofNatLT v _).toNat = v
  exact UInt32.toNat_ofNatLT ..

theorem eq_ofNat {b : UInt8} {n : Nat} (same : b.toNat = n) : b = UInt8.ofNat n := by
  rw [← same, UInt8.ofNat_toNat]

theorem encode_of_sequence (fits : Sequence bytes) :
    ∃ c : Char, bytes = String.utf8EncodeChar c := by
  rcases sequence_cases fits with ⟨a, rfl, low⟩ | ⟨a, b, rfl, lead, second⟩
    | ⟨a, b, c, rfl, lead, second, third⟩ | ⟨a, b, c, d, rfl, lead, second, third, fourth⟩
  · have valid : a.toNat.isValidChar := .inl (by omega)
    refine ⟨scalar _ valid, ?_⟩
    unfold String.utf8EncodeChar
    rw [scalar_toNat, if_pos low]
    rw [UInt8.ofNat_toNat]
  · unfold Continues at second
    have valid : ((a.toNat - 0xC0) * 64 + (b.toNat - 0x80)).isValidChar := .inl (by omega)
    refine ⟨scalar _ valid, ?_⟩
    unfold String.utf8EncodeChar
    rw [scalar_toNat, if_neg (by omega), if_pos (by omega)]
    exact congrArg₂ List.cons (eq_ofNat (by omega))
      (congrArg₂ List.cons (eq_ofNat (by omega)) rfl)
  · unfold SecondOfThree Continues at second
    unfold Continues at third
    have valid : ((a.toNat - 0xE0) * 4096 + (b.toNat - 0x80) * 64
        + (c.toNat - 0x80)).isValidChar := by
      unfold Nat.isValidChar
      omega
    refine ⟨scalar _ valid, ?_⟩
    unfold String.utf8EncodeChar
    rw [scalar_toNat, if_neg (by omega), if_neg (by omega), if_pos (by omega)]
    exact congrArg₂ List.cons (eq_ofNat (by omega))
      (congrArg₂ List.cons (eq_ofNat (by omega))
        (congrArg₂ List.cons (eq_ofNat (by omega)) rfl))
  · unfold SecondOfFour Continues at second
    unfold Continues at third fourth
    have valid : ((a.toNat - 0xF0) * 262144 + (b.toNat - 0x80) * 4096 + (c.toNat - 0x80) * 64
        + (d.toNat - 0x80)).isValidChar := by
      unfold Nat.isValidChar
      omega
    refine ⟨scalar _ valid, ?_⟩
    unfold String.utf8EncodeChar
    rw [scalar_toNat, if_neg (by omega), if_neg (by omega), if_neg (by omega)]
    exact congrArg₂ List.cons (eq_ofNat (by omega))
      (congrArg₂ List.cons (eq_ofNat (by omega))
        (congrArg₂ List.cons (eq_ofNat (by omega))
          (congrArg₂ List.cons (eq_ofNat (by omega)) rfl)))

/-- The well-formed texts are the encodings of the lists of scalar values. -/
theorem wellFormed_iff_encode (bytes : List UInt8) :
    WellFormed bytes ↔ ∃ chars : List Char, bytes = chars.flatMap String.utf8EncodeChar := by
  constructor
  · rintro ⟨sequences, each, rfl⟩
    induction sequences with
    | nil => exact ⟨[], rfl⟩
    | cons s rest ih =>
      obtain ⟨first, later⟩ := forall_mem_cons.mp each
      obtain ⟨c, encoded⟩ := encode_of_sequence first
      obtain ⟨chars, flat⟩ := ih later
      exact ⟨c :: chars, by rw [flatten_cons, flatMap_cons, encoded, flat]⟩
  · rintro ⟨chars, rfl⟩
    refine ⟨chars.map String.utf8EncodeChar, ?_, rfl⟩
    intro s member
    obtain ⟨c, -, rfl⟩ := mem_map.mp member
    exact sequence_encode c

theorem validateUTF8_iff (s : List UInt8) : s.toByteArray.validateUTF8 = true ↔ WellFormed s := by
  rw [ByteArray.validateUTF8_eq_true_iff, wellFormed_iff_encode]
  constructor
  · rintro ⟨chars, same⟩
    exact ⟨chars, toByteArray_inj.mp same⟩
  · rintro ⟨chars, rfl⟩
    exact ⟨chars, rfl⟩

end Proc17.Unicode
