import DtoInterfaces.Json.Printer
import DtoInterfaces.Json.Reader
import DtoInterfaces.Proofs.Text.Utf8

namespace DtoInterfaces

namespace Text

/-- The last digit stands behind those of a number with one digit less. -/
theorem paddedHex_succ {width : Nat} (hwidth : width ≠ 0) (n : Nat) :
    paddedHex (width + 1) n = paddedHex width (n / 16) ++ [Nat.digitChar (n % 16)] := by
  rw [paddedHex, paddedHex, Nat.toDigits_eq_if (by decide : 1 < 16)]
  split
  · next hn =>
    rw [Nat.div_eq_of_lt hn, Nat.mod_eq_of_lt hn, Nat.toDigits_of_lt_base (by decide : 0 < 16)]
    obtain ⟨width, rfl⟩ := Nat.exists_eq_add_one_of_ne_zero hwidth
    simp only [List.leftpad, List.length_singleton, Nat.add_sub_cancel]
    rw [List.replicate_succ']
    rfl
  · simp [List.leftpad]

theorem paddedHex_one {n : Nat} (hn : n < 16) : paddedHex 1 n = [Nat.digitChar n] := by
  rw [paddedHex, Nat.toDigits_of_lt_base hn]
  rfl

theorem paddedHex_four {n : Nat} (hn : n < 0x10000) :
    paddedHex 4 n = [Nat.digitChar (n / 16 / 16 / 16), Nat.digitChar (n / 16 / 16 % 16),
      Nat.digitChar (n / 16 % 16), Nat.digitChar (n % 16)] := by
  rw [paddedHex_succ (by decide), paddedHex_succ (by decide), paddedHex_succ (by decide),
    paddedHex_one (by omega)]
  rfl

end Text

namespace Json

theorem hexDigit?_digitChar {n : Nat} (hn : n < 16) : hexDigit? (Nat.digitChar n) = some n := by
  revert n
  decide

theorem unitEscape_eq {n : Nat} (hn : n < 0x10000) :
    unitEscape n = ['\\', 'u', Nat.digitChar (n / 16 / 16 / 16), Nat.digitChar (n / 16 / 16 % 16),
      Nat.digitChar (n / 16 % 16), Nat.digitChar (n % 16)] := by
  rw [unitEscape, Text.paddedHex_four hn]
  rfl

/-- The ways in which a character is written. -/
inductive Escaped (c : Char) : Text → Prop
  | plain (hquote : c ≠ '"') (hslash : c ≠ '\\') (hc : 0x20 ≤ c.toNat) (hc' : c.toNat < 0x7F) :
    Escaped c [c]
  | short {mark : Char} (hmark : mark ≠ 'u' ∧ 0x20 ≤ mark.toNat)
    (hc : shortEscape? mark = some c.toNat) (hc' : c.toNat < 0x10000) : Escaped c ['\\', mark]
  | unit (hc : c.toNat < 0x10000) : Escaped c (unitEscape c.toNat)
  | halves (hc : 0x10000 ≤ c.toNat) :
    Escaped c (unitEscape (0xD800 + (c.toNat - 0x10000) / 0x400) ++
      unitEscape (0xDC00 + (c.toNat - 0x10000) % 0x400))

theorem escaped_escapedChar (c : Char) : Escaped c (escapedChar c) := by
  have hshort {mark x : Char} (hmark : mark ≠ 'u' ∧ 0x20 ≤ mark.toNat) (h : c == x)
      (hx : shortEscape? mark = some x.toNat) (hx' : x.toNat < 0x10000) : Escaped c ['\\', mark] :=
    .short hmark (eq_of_beq h ▸ hx) (eq_of_beq h ▸ hx')
  unfold escapedChar
  split
  · next h =>
    rcases (by simpa using h : c = '"' ∨ c = '\\') with rfl | rfl
    all_goals exact .short (by decide) rfl (by decide)
  next hmarks =>
  split
  · next h => exact hshort (by decide) h rfl (by decide)
  split
  · next h => exact hshort (by decide) h rfl (by decide)
  split
  · next h => exact hshort (by decide) h rfl (by decide)
  split
  · next h => exact hshort (by decide) h rfl (by decide)
  split
  · next h => exact hshort (by decide) h rfl (by decide)
  split
  · next h =>
    obtain ⟨hquote, hslash⟩ : c ≠ '"' ∧ c ≠ '\\' := by simpa using hmarks
    exact .plain hquote hslash h.1 h.2
  split
  · next h => exact .unit h
  · next h => exact .halves (Nat.not_lt.1 h)

/-- Whether a reader passes over a text without finding a closing quote in it. -/
def Passes (t : Text) : Prop :=
  ∀ rest, stringBody? (t ++ rest) = (stringBody? rest).map fun (body, rest) => (t ++ body, rest)

namespace Passes

theorem nil : Passes [] := fun rest => by simp

theorem append {s t : Text} (hs : Passes s) (ht : Passes t) : Passes (s ++ t) := by
  intro rest
  rw [List.append_assoc, hs, ht, Option.map_map]
  simp only [Function.comp_def, List.append_assoc]

theorem plain {c : Char} (hquote : c ≠ '"') (hslash : c ≠ '\\') (hc : 0x20 ≤ c.toNat) :
    Passes [c] := by
  intro rest
  rw [List.singleton_append, stringBody?]
  · rw [if_neg (Nat.not_lt.2 hc)]
    rfl
  all_goals simp_all

theorem escape (c : Char) : Passes ['\\', c] := fun rest => by
  rw [List.cons_append, List.singleton_append, stringBody?]
  rfl

theorem digitChar {n : Nat} (hn : n < 16) : Passes [Nat.digitChar n] := by
  have h : Nat.digitChar n ≠ '"' ∧ Nat.digitChar n ≠ '\\' ∧ 0x20 ≤ (Nat.digitChar n).toNat := by
    revert n
    decide
  exact plain h.1 h.2.1 h.2.2

theorem unitEscape {n : Nat} (hn : n < 0x10000) : Passes (unitEscape n) := by
  rw [unitEscape_eq hn]
  exact (escape 'u').append ((digitChar (by omega)).append ((digitChar (by omega)).append
    ((digitChar (by omega)).append (digitChar (by omega)))))

theorem of_escaped {c : Char} {t : Text} (h : Escaped c t) : Passes t := by
  have hvalid := Text.toNat_cases c
  cases h with
  | plain hquote hslash hc => exact plain hquote hslash hc
  | short => exact escape _
  | unit hc => exact unitEscape hc
  | halves hc => exact (unitEscape (by omega)).append (unitEscape (by omega))

theorem flatMap_escapedChar (t : Text) : Passes (t.flatMap escapedChar) := by
  induction t with
  | nil => exact nil
  | cons c t ih => exact (of_escaped (escaped_escapedChar c)).append ih

end Passes

theorem codePoint_toNat (c : Char) : codePoint c.toNat = .char c := by
  have hvalid := Text.toNat_cases c
  rw [codePoint, dif_neg (by omega), Char.ofNat_toNat]

theorem codePoint_surrogate {n : Nat} (hn : n < 0x800) :
    codePoint (0xD800 + n) = .surrogate ⟨n, hn⟩ := by
  rw [codePoint, dif_pos (by omega)]
  simp only [Nat.add_sub_cancel_left]

/-- A character as it is, or in two halves if it is beyond the code points of one escape. -/
def units (c : Char) : RawText :=
  if c.toNat < 0x10000 then [.char c]
  else
    [codePoint (0xD800 + (c.toNat - 0x10000) / 0x400),
      codePoint (0xDC00 + (c.toNat - 0x10000) % 0x400)]

theorem codePoints?_unitEscape {n : Nat} (hn : n < 0x10000) (rest : Text) :
    codePoints? (unitEscape n ++ rest) = (codePoints? rest).map (codePoint n :: ·) := by
  rw [unitEscape_eq hn]
  simp only [List.cons_append, List.nil_append, codePoints?]
  have hvalue :
      ((n / 16 / 16 / 16 * 16 + n / 16 / 16 % 16) * 16 + n / 16 % 16) * 16 + n % 16 = n := by omega
  rw [hexDigit?_digitChar (by omega), hexDigit?_digitChar (by omega),
    hexDigit?_digitChar (by omega), hexDigit?_digitChar (by omega)]
  cases codePoints? rest <;> simp [hvalue]

theorem codePoints?_escaped {c : Char} {t : Text} (h : Escaped c t) (rest : Text) :
    codePoints? (t ++ rest) = (codePoints? rest).map (units c ++ ·) := by
  have hvalid := Text.toNat_cases c
  cases h with
  | plain hquote hslash hc hc' =>
    rw [units, if_pos (by omega), List.singleton_append, codePoints?]
    · cases codePoints? rest <;> rfl
    all_goals simp_all
  | short hmark hc hc' =>
    rw [units, if_pos hc', List.cons_append, List.singleton_append, codePoints?]
    · rw [hc]
      cases codePoints? rest <;> simp [codePoint_toNat]
    all_goals simp_all
  | unit hc =>
    rw [units, if_pos hc, codePoints?_unitEscape hc, codePoint_toNat]
    rfl
  | halves hc =>
    rw [units, if_neg (Nat.not_lt.2 hc), List.append_assoc, codePoints?_unitEscape (by omega),
      codePoints?_unitEscape (by omega), Option.map_map]
    rfl

theorem codePoints?_flatMap_escapedChar (t : Text) :
    codePoints? (t.flatMap escapedChar) = some (t.flatMap units) := by
  induction t with
  | nil => rfl
  | cons c t ih =>
    rw [List.flatMap_cons, codePoints?_escaped (escaped_escapedChar c), ih]
    rfl

theorem joinHalves_units (c : Char) (rest : RawText) :
    joinHalves (units c ++ rest) = .char c :: joinHalves rest := by
  have hvalid := Text.toNat_cases c
  unfold units
  split
  · rfl
  · have hhigh : (c.toNat - 0x10000) / 0x400 < 0x400 := by omega
    have hlow : (c.toNat - 0x10000) % 0x400 < 0x400 := by omega
    have hvalue : 0x10000 + (c.toNat - 0x10000) / 0x400 * 0x400 +
        (0x400 + (c.toNat - 0x10000) % 0x400 - 0x400) = c.toNat := by omega
    rw [codePoint_surrogate (by omega), show 0xDC00 + (c.toNat - 0x10000) % 0x400 =
      0xD800 + (0x400 + (c.toNat - 0x10000) % 0x400) by omega, codePoint_surrogate (by omega),
      List.cons_append, List.singleton_append, joinHalves, if_pos ⟨hhigh, Nat.le_add_right _ _⟩,
      hvalue, codePoint_toNat]

theorem joinHalves_flatMap_units (t : Text) : joinHalves (t.flatMap units) = t.raw := by
  induction t with
  | nil => rfl
  | cons c t ih => rw [List.flatMap_cons, joinHalves_units, ih, Text.raw_cons]

theorem printText_raw (t : Text) :
    printText t.raw = '"' :: t.flatMap escapedChar ++ ['"'] := by
  rw [printText, Text.raw, List.flatMap_map]
  rfl

/-- A printed text without surrogates is read again from behind its opening quote. -/
theorem string_printText (t rest : Text) :
    string (t.flatMap escapedChar ++ '"' :: rest) = .ok (t.raw, rest) := by
  have hbody : stringBody? (t.flatMap escapedChar ++ '"' :: rest) =
      some (t.flatMap escapedChar, rest) := by
    rw [Passes.flatMap_escapedChar, stringBody?]
    simp
  rw [string, hbody]
  simp [codePoints?_flatMap_escapedChar, joinHalves_flatMap_units]

end Json

end DtoInterfaces
