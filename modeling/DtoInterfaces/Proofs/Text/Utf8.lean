import DtoInterfaces.Proofs.Text.Raw
import DtoInterfaces.Text.Utf8

namespace DtoInterfaces.Utf8

theorem toNat_octet {n : Nat} (h : n < 0x100) : n.toUInt8.toNat = n := by
  simpa using Nat.mod_eq_of_lt h

section Octets

variable {octet first : UInt8} {start owed low high value j : Nat} (offset : Nat)
  (rest : List UInt8)

/-- A character that owes more than one octet takes one. -/
theorem decodeFrom_inner (hoctet : octet.toNat = 0x80 + j) (hlow : low ≤ 0x80 + j)
    (hhigh : 0x80 + j ≤ high) :
    decodeFrom offset (some ⟨first, start, owed + 2, low, high, value⟩) (octet :: rest) =
      decodeFrom (offset + 1) (some ⟨first, start, owed + 1, 0x80, 0xBF, value * 0x40 + j⟩)
        rest := by
  rw [decodeFrom]
  simp [hoctet, hlow, hhigh]

/-- A character takes the last octet that it owes. -/
theorem decodeFrom_last (hoctet : octet.toNat = 0x80 + j) (hlow : low ≤ 0x80 + j)
    (hhigh : 0x80 + j ≤ high) :
    decodeFrom offset (some ⟨first, start, 1, low, high, value⟩) (octet :: rest) =
      (decodeFrom (offset + 1) none rest).map (Char.ofNat (value * 0x40 + j) :: ·) := by
  rw [decodeFrom]
  simp [hoctet, hlow, hhigh]

theorem decodeFrom_open {p : Partial} (hoctet : 0x80 ≤ octet.toNat)
    (hp : Partial.open? offset octet = some p) :
    decodeFrom offset none (octet :: rest) = decodeFrom (offset + 1) (some p) rest := by
  rw [decodeFrom, if_neg (Nat.not_lt.2 hoctet), hp]

end Octets

section Open

variable {octet : UInt8} {k : Nat} (offset : Nat)

theorem open?_two (h : octet.toNat = 0xC0 + k) (hlow : 2 ≤ k) (hhigh : k < 0x20) :
    Partial.open? offset octet = some ⟨octet, offset, 1, 0x80, 0xBF, k⟩ := by
  unfold Partial.open?
  simp only [h, if_neg (by omega : ¬ 0xC0 + k < 0xC2), if_pos (by omega : 0xC0 + k < 0xE0),
    Nat.add_sub_cancel_left]

theorem open?_three (h : octet.toNat = 0xE0 + k) (hhigh : k < 0x10) :
    Partial.open? offset octet = some ⟨octet, offset, 2, if k = 0 then 0xA0 else 0x80,
      if k = 0xD then 0x9F else 0xBF, k⟩ := by
  unfold Partial.open?
  simp only [h, if_neg (by omega : ¬ 0xE0 + k < 0xC2), if_neg (by omega : ¬ 0xE0 + k < 0xE0),
    if_pos (by omega : 0xE0 + k < 0xF0), Nat.add_sub_cancel_left, Nat.add_eq_left,
    (by omega : 0xE0 + k = 0xED ↔ k = 0xD)]

theorem open?_four (h : octet.toNat = 0xF0 + k) (hhigh : k < 5) :
    Partial.open? offset octet = some ⟨octet, offset, 3, if k = 0 then 0x90 else 0x80,
      if k = 4 then 0x8F else 0xBF, k⟩ := by
  unfold Partial.open?
  simp only [h, if_neg (by omega : ¬ 0xF0 + k < 0xC2), if_neg (by omega : ¬ 0xF0 + k < 0xE0),
    if_neg (by omega : ¬ 0xF0 + k < 0xF0), if_pos (by omega : 0xF0 + k < 0xF5),
    Nat.add_sub_cancel_left, Nat.add_eq_left, (by omega : 0xF0 + k = 0xF4 ↔ k = 4)]

end Open

section Characters

variable {a b c d : UInt8} {i j k l : Nat} (offset : Nat) (rest : List UInt8)

theorem decodeFrom_one (ha : a.toNat < 0x80) : decodeFrom offset none (a :: rest) =
    (decodeFrom (offset + 1) none rest).map (Char.ofNat a.toNat :: ·) := by
  rw [decodeFrom, if_pos ha]

theorem decodeFrom_two (ha : a.toNat = 0xC0 + i) (hi : 2 ≤ i) (hi' : i < 0x20)
    (hb : b.toNat = 0x80 + j) (hj : j < 0x40) :
    decodeFrom offset none (a :: b :: rest) =
      (decodeFrom (offset + 2) none rest).map (Char.ofNat (i * 0x40 + j) :: ·) := by
  rw [decodeFrom_open offset _ (by omega) (open?_two offset ha hi hi'),
    decodeFrom_last _ _ hb (by omega) (by omega)]

theorem decodeFrom_three (ha : a.toNat = 0xE0 + i) (hi : i < 0x10) (hb : b.toNat = 0x80 + j)
    (hj : j < 0x40) (hlow : i = 0 → 0x20 ≤ j) (hhigh : i = 0xD → j < 0x20)
    (hc : c.toNat = 0x80 + k) (hk : k < 0x40) :
    decodeFrom offset none (a :: b :: c :: rest) =
      (decodeFrom (offset + 3) none rest).map (Char.ofNat ((i * 0x40 + j) * 0x40 + k) :: ·) := by
  rw [decodeFrom_open offset _ (by omega) (open?_three offset ha hi),
    decodeFrom_inner _ _ hb (by split <;> omega) (by split <;> omega),
    decodeFrom_last _ _ hc (by omega) (by omega)]

theorem decodeFrom_four (ha : a.toNat = 0xF0 + i) (hi : i < 5) (hb : b.toNat = 0x80 + j)
    (hj : j < 0x40) (hlow : i = 0 → 0x10 ≤ j) (hhigh : i = 4 → j < 0x10)
    (hc : c.toNat = 0x80 + k) (hk : k < 0x40) (hd : d.toNat = 0x80 + l) (hl : l < 0x40) :
    decodeFrom offset none (a :: b :: c :: d :: rest) = (decodeFrom (offset + 4) none rest).map
      (Char.ofNat (((i * 0x40 + j) * 0x40 + k) * 0x40 + l) :: ·) := by
  rw [decodeFrom_open offset _ (by omega) (open?_four offset ha hi),
    decodeFrom_inner _ _ hb (by split <;> omega) (by split <;> omega),
    decodeFrom_inner _ _ hc (by omega) (by omega), decodeFrom_last _ _ hd (by omega) (by omega)]

end Characters

/-- A character is read from its own octets, whatever follows them. -/
theorem decodeFrom_encodeChar (c : Char) (offset : Nat) (rest : List UInt8) :
    decodeFrom offset none (encodeChar c ++ rest) =
      (decodeFrom (offset + (encodeChar c).length) none rest).map (c :: ·) := by
  have hc : Char.ofNat c.toNat = c := Char.ofNat_toNat c
  have hvalid := Text.toNat_cases c
  have tail (m : Nat) : (0x80 + m % 0x40).toUInt8.toNat = 0x80 + m % 0x40 :=
    toNat_octet (by omega)
  unfold encodeChar
  dsimp only
  split
  · have hone := decodeFrom_one (a := c.toNat.toUInt8) offset rest
    rw [toNat_octet (by omega), hc] at hone
    exact hone (by omega)
  split
  · have hvalue : c.toNat / 0x40 * 0x40 + c.toNat % 0x40 = c.toNat := by omega
    have htwo := decodeFrom_two offset rest
      (toNat_octet (by omega : 0xC0 + c.toNat / 0x40 < 0x100)) (by omega) (by omega)
      (tail c.toNat) (by omega)
    rwa [hvalue, hc] at htwo
  split
  · have hvalue : (c.toNat / 0x1000 * 0x40 + c.toNat / 0x40 % 0x40) * 0x40 + c.toNat % 0x40 =
      c.toNat := by omega
    have hthree := decodeFrom_three offset rest
      (toNat_octet (by omega : 0xE0 + c.toNat / 0x1000 < 0x100)) (by omega)
      (tail (c.toNat / 0x40)) (by omega) (by omega) (by omega) (tail c.toNat) (by omega)
    rwa [hvalue, hc] at hthree
  · have hvalue : ((c.toNat / 0x40000 * 0x40 + c.toNat / 0x1000 % 0x40) * 0x40 +
      c.toNat / 0x40 % 0x40) * 0x40 + c.toNat % 0x40 = c.toNat := by omega
    have hfour := decodeFrom_four offset rest
      (toNat_octet (by omega : 0xF0 + c.toNat / 0x40000 < 0x100)) (by omega)
      (tail (c.toNat / 0x1000)) (by omega) (by omega) (by omega) (tail (c.toNat / 0x40)) (by omega)
      (tail c.toNat) (by omega)
    rwa [hvalue, hc] at hfour

theorem decodeFrom_encode (t : Text) (offset : Nat) :
    decodeFrom offset none (encode t) = .ok t := by
  induction t generalizing offset with
  | nil => rfl
  | cons c t ih =>
    rw [encode, List.flatMap_cons, decodeFrom_encodeChar]
    have hrest := ih (offset + (encodeChar c).length)
    rw [encode] at hrest
    rw [hrest]
    rfl

/-- What was encoded is read again. -/
theorem decode_encode (t : Text) : decode (encode t) = .ok t := decodeFrom_encode t 0

section Raw

variable {passes : Fin 0x800 → Bool} {t : RawText}

theorem encodeFault?_raw (passes : Fin 0x800 → Bool) (offset : Nat) (t : Text) :
    encodeFault? passes offset t.raw = none := by
  induction t generalizing offset with
  | nil => rfl
  | cons c t ih => exact ih (offset + 1)

/-- Texts without surrogates are encoded, and no others. -/
theorem exists_raw_of_encodeFault? {offset : Nat}
    (h : encodeFault? (fun _ => false) offset t = none) : ∃ u : Text, t = u.raw := by
  induction t generalizing offset with
  | nil => exact ⟨[], rfl⟩
  | cons c t ih =>
    cases c with
    | char c =>
      obtain ⟨u, rfl⟩ := ih h
      exact ⟨c :: u, rfl⟩
    | surrogate n => cases h

theorem encodeRaw_raw (t : Text) : encodeRaw t.raw = .ok (encode t) := by
  rw [encodeRaw, encodeFault?_raw]
  exact congrArg (fun u => Except.ok (encode u)) (Text.filterMap_char?_raw t)

theorem encodeRaw_eq_ok_iff {octets : List UInt8} :
    encodeRaw t = .ok octets ↔ ∃ u : Text, t = u.raw ∧ octets = encode u := by
  constructor
  · intro h
    have hnone : encodeFault? (fun _ => false) 0 t = none := by
      unfold encodeRaw at h
      split at h
      · assumption
      · cases h
    obtain ⟨u, rfl⟩ := exists_raw_of_encodeFault? hnone
    rw [encodeRaw_raw] at h
    exact ⟨u, rfl, (Except.ok.inj h).symm⟩
  · rintro ⟨u, rfl, rfl⟩
    exact encodeRaw_raw u

theorem text?_of_encodeRaw_eq_error {fault : EncodeFault} (h : encodeRaw t = .error fault) :
    t.text? = none := by
  refine Option.eq_none_iff_forall_ne_some.2 fun u hu => ?_
  rw [RawText.text?_eq_some_iff.1 hu, encodeRaw_raw] at h
  cases h

end Raw

end DtoInterfaces.Utf8
