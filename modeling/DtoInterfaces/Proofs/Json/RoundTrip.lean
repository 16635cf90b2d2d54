import DtoInterfaces.Proofs.Json.Strings
import DtoInterfaces.Proofs.Text.Lines

namespace DtoInterfaces.Json

/-- Values in which no number stands, and no surrogate in a text. -/
inductive Plain : Json → Prop
  | null : Plain .null
  | bool (b : Bool) : Plain (.bool b)
  | text (t : Text) : Plain (.text t.raw)
  | array {items : List Json} (h : ∀ item ∈ items, Plain item) : Plain (.array items)
  | object {fields : List (RawText × Json)}
    (hnames : ∀ field ∈ fields, ∃ name : Text, field.1 = name.raw)
    (h : ∀ field ∈ fields, Plain field.2) : Plain (.object fields)

theorem printItems_eq (level : Nat) (items : List Json) :
    printItems level items = items.map (printAt level) := by
  induction items with
  | nil => rfl
  | cons item items ih => rw [printItems, ih, List.map_cons]

def printField (level : Nat) (field : RawText × Json) : Text :=
  printText field.1 ++ ": " ++ printAt level field.2

theorem printFields_eq (level : Nat) (fields : List (RawText × Json)) :
    printFields level fields = fields.map (printField level) := by
  induction fields with
  | nil => rfl
  | cons field fields ih =>
    obtain ⟨name, item⟩ := field
    rw [printFields, ih, List.map_cons, printField]

theorem skipBlanks_cons {c : Char} (hc : isBlank c = false) (t : Text) :
    skipBlanks (c :: t) = c :: t := by
  rw [skipBlanks, List.dropWhile_cons, hc]
  rfl

theorem skipBlanks_lineStart (level : Nat) (t : Text) :
    skipBlanks (lineStart level ++ t) = skipBlanks t := by
  have hblank : ∀ c ∈ lineStart level, isBlank c := by
    intro c hc
    rcases List.mem_cons.1 hc with rfl | hc
    · rfl
    · rw [(List.mem_replicate.1 hc).2]
      rfl
  rw [skipBlanks, List.dropWhile_append_of_pos hblank, skipBlanks]

/-- Whether a text begins as a value can begin: with no blank, and not with the end of a block. -/
def Begins (t : Text) : Prop := ∃ c u, t = c :: u ∧ isBlank c = false ∧ c ≠ ']' ∧ c ≠ '\x7d'

namespace Begins

variable {t : Text}

theorem append (h : Begins t) (rest : Text) : Begins (t ++ rest) := by
  obtain ⟨c, u, rfl, hc, hc'⟩ := h
  exact ⟨c, u ++ rest, rfl, hc, hc'⟩

theorem skipBlanks_append (h : Begins t) (rest : Text) : skipBlanks (t ++ rest) = t ++ rest := by
  obtain ⟨c, u, rfl, hc, -⟩ := h
  exact skipBlanks_cons hc _

theorem skipBlanks_space (h : Begins t) (rest : Text) :
    skipBlanks (' ' :: (t ++ rest)) = t ++ rest :=
  h.skipBlanks_append rest

theorem join {separator : Text} {parts : List Text} (hne : parts ≠ [])
    (h : ∀ part ∈ parts, Begins part) : Begins (Text.join separator parts) := by
  cases parts with
  | nil => exact absurd rfl hne
  | cons part parts =>
    have hpart := h part List.mem_cons_self
    cases parts with
    | nil => exact hpart
    | cons next parts =>
      rw [Text.join_cons_cons, List.append_assoc]
      exact hpart.append _

theorem block {opening : Char} (h : isBlank opening = false)
    (h' : opening ≠ ']' ∧ opening ≠ '\x7d') (closing : Char) (level : Nat) (parts : List Text) :
    Begins (block opening closing level parts) := by
  unfold Json.block
  split
  · exact ⟨_, _, rfl, h, h'⟩
  · exact ⟨_, _, rfl, h, h'⟩

theorem printField (level : Nat) (field : RawText × Json) : Begins (printField level field) :=
  ⟨_, _, rfl, rfl, by decide⟩

end Begins

theorem Plain.begins {j : Json} (h : Plain j) (level : Nat) :
    Begins (printAt level j) := by
  cases h with
  | null => exact ⟨_, _, rfl, rfl, by decide⟩
  | bool b => cases b <;> exact ⟨_, _, rfl, rfl, by decide⟩
  | text t => exact ⟨_, _, rfl, rfl, by decide⟩
  | array => exact .block rfl (by decide) _ _ _
  | object => exact .block rfl (by decide) _ _ _

/-- The text between two parts of a block. -/
def separator (level : Nat) : Text := ',' :: lineStart level

/-- Whether a reader takes `a` from its text, as the last part of a block or in front of others. -/
structure TakesPart {α : Type} (read : Nat → Text → Except Fault (List α × Text)) (closing : Char)
    (level : Nat) (t : Text) (a : α) : Prop where
  last : ∀ {fuel : Nat}, t.length ≤ fuel → ∀ outer rest,
    read (fuel + 1) (t ++ (lineStart outer ++ closing :: rest)) = .ok ([a], rest)
  next : ∀ {fuel : Nat}, t.length ≤ fuel → ∀ {u rest rest' : Text} {others : List α}, Begins u →
    read fuel (u ++ rest) = .ok (others, rest') →
    read (fuel + 1) (t ++ (separator level ++ (u ++ rest))) = .ok (a :: others, rest')

/-- All parts of a block are taken, each with one step less than the one before. -/
theorem read_join {α : Type} {read : Nat → Text → Except Fault (List α × Text)} {closing : Char}
    {level : Nat} {write : α → Text} {as : List α} (hne : as ≠ [])
    (hbegins : ∀ a ∈ as, Begins (write a))
    (htakes : ∀ a ∈ as, TakesPart read closing level (write a) a)
    {fuel : Nat} (hfuel : (Text.join (separator level) (as.map write)).length < fuel) (outer : Nat)
    (rest : Text) :
    read fuel (Text.join (separator level) (as.map write) ++ (lineStart outer ++ closing :: rest)) =
      .ok (as, rest) := by
  induction as generalizing fuel with
  | nil => exact absurd rfl hne
  | cons a others ih =>
    obtain ⟨fuel, rfl⟩ := Nat.exists_eq_add_one_of_ne_zero (Nat.ne_zero_of_lt hfuel)
    obtain ⟨ha, hothers⟩ := List.forall_mem_cons.1 htakes
    replace hbegins := (List.forall_mem_cons.1 hbegins).2
    cases others with
    | nil => exact ha.last (Nat.le_of_lt_succ hfuel) outer rest
    | cons next others =>
      have hjoin : Text.join (separator level) ((a :: next :: others).map write) = write a ++
          separator level ++ Text.join (separator level) ((next :: others).map write) := rfl
      have hseparator : 0 < (separator level).length := Nat.zero_lt_succ _
      rw [hjoin, List.length_append, List.length_append] at hfuel
      rw [hjoin, List.append_assoc, List.append_assoc]
      refine ha.next (by omega) (.join (by simp) (List.forall_mem_map.2 hbegins)) ?_
      exact ih (by simp) hbegins hothers (by omega)

/-- Whether a value is read from its printed text, whatever follows it. -/
def Reads (j : Json) : Prop := ∀ level fuel rest, (printAt level j).length ≤ fuel →
  value fuel (printAt level j ++ rest) = .ok (j, rest)

theorem Reads.takesPart {item : Json} (h : Reads item) (level : Nat) :
    TakesPart items ']' level (printAt level item) item where
  last {fuel} hfuel outer rest := by
    rw [items, h level _ _ hfuel]
    simp only [bind, Except.bind]
    rw [skipBlanks_lineStart, skipBlanks_cons rfl]
    rfl
  next {fuel} hfuel {u rest rest' others} hu hothers := by
    rw [items, h level _ _ hfuel]
    simp only [bind, Except.bind, separator, List.cons_append]
    rw [skipBlanks_cons rfl]
    simp only [skipBlanks_lineStart, hu.skipBlanks_append, hothers]
    rfl

theorem printField_append (level : Nat) (name : Text) (item : Json) (rest : Text) :
    printField level (name.raw, item) ++ rest =
      '"' :: (name.flatMap escapedChar ++ '"' :: ':' :: ' ' :: (printAt level item ++ rest)) := by
  simp [printField, printText_raw]

theorem Reads.takesPart_field {item : Json} (h : Reads item) (hfree : Plain item) (level : Nat)
    (name : Text) :
    TakesPart fields '\x7d' level (printField level (name.raw, item)) (name.raw, item) := by
  have hbegins := hfree.begins level
  have hitem {fuel : Nat} (hfuel : (printField level (name.raw, item)).length ≤ fuel)
      (rest : Text) :
      value fuel (printAt level item ++ rest) = .ok (item, rest) := by
    refine h level fuel rest (Nat.le_trans ?_ hfuel)
    rw [printField, List.length_append]
    exact Nat.le_add_left _ _
  constructor
  · intro fuel hfuel outer rest
    rw [printField_append, fields, string_printText]
    simp only [bind, Except.bind]
    rw [skipBlanks_cons rfl]
    simp only [hbegins.skipBlanks_space, hitem hfuel]
    rw [skipBlanks_lineStart, skipBlanks_cons rfl]
    rfl
  · intro fuel hfuel u rest rest' others hu hothers
    rw [printField_append, fields, string_printText]
    simp only [bind, Except.bind]
    rw [skipBlanks_cons rfl]
    simp only [hbegins.skipBlanks_space, hitem hfuel]
    rw [separator, List.cons_append, skipBlanks_cons rfl]
    simp only [skipBlanks_lineStart, hu.skipBlanks_append, hothers]
    rfl

/-- Behind its opening a block goes on with a line start and its first part. -/
theorem block_append {opening closing : Char} {parts : List Text} (hne : parts ≠ []) (level : Nat)
    (rest : Text) : block opening closing level parts ++ rest =
      opening :: (lineStart (level + 1) ++ (Text.join (separator (level + 1)) parts ++
        (lineStart level ++ closing :: rest))) := by
  have hempty : parts.isEmpty = false := by simpa using hne
  simp [block, hempty, separator]

section Blocks

variable {fuel : Nat} {t rest : Text}

theorem value_array {found : List Json} (ht : Begins t) (level : Nat)
    (h : items fuel t = .ok (found, rest)) :
    value (fuel + 1) ('[' :: (lineStart level ++ t)) = .ok (.array found, rest) := by
  obtain ⟨c, u, rfl, hc, hclosing, -⟩ := ht
  rw [value, skipBlanks_lineStart, skipBlanks_cons hc]
  split
  · next heq => exact absurd (List.cons.inj heq).1 hclosing
  · rw [h]
    rfl

theorem value_object {found : List (RawText × Json)} (ht : Begins t) (level : Nat)
    (h : fields fuel t = .ok (found, rest)) :
    value (fuel + 1) ('\x7b' :: (lineStart level ++ t)) = .ok (.object found, rest) := by
  obtain ⟨c, u, rfl, hc, -, hclosing⟩ := ht
  rw [value, skipBlanks_lineStart, skipBlanks_cons hc]
  split
  · next heq => exact absurd (List.cons.inj heq).1 hclosing
  · rw [h]
    rfl

end Blocks

theorem length_join_lt_length_block (opening closing : Char) {parts : List Text}
    (hne : parts ≠ []) (level : Nat) : (Text.join (separator (level + 1)) parts).length + 1 <
      (block opening closing level parts).length := by
  rw [← List.append_nil (block _ _ _ _), block_append hne]
  simp [lineStart]
  omega

theorem Reads.of_succ {j : Json} (hfree : Plain j)
    (h : ∀ level fuel rest, (printAt level j).length ≤ fuel + 1 →
      value (fuel + 1) (printAt level j ++ rest) = .ok (j, rest)) : Reads j := by
  intro level fuel rest hfuel
  obtain ⟨c, u, hu, -⟩ := hfree.begins level
  have hpos : fuel ≠ 0 := by
    rw [hu] at hfuel
    exact Nat.ne_zero_of_lt hfuel
  obtain ⟨fuel, rfl⟩ := Nat.exists_eq_add_one_of_ne_zero hpos
  exact h level fuel rest hfuel

/-- A value is read from its printed text. -/
theorem Plain.reads {j : Json} (h : Plain j) : Reads j := by
  -- along the value: each level down costs one step, and at least the opening of a block
  induction h with
  | null => exact .of_succ .null fun _ _ _ _ => rfl
  | bool b => exact .of_succ (.bool b) fun _ _ _ _ => by cases b <;> rfl
  | text t =>
    refine .of_succ (.text t) fun level fuel rest _ => ?_
    rw [printAt, printText_raw, List.cons_append, List.cons_append, value, List.append_assoc,
      List.singleton_append, string_printText]
    rfl
  | @array items hitems ih =>
    refine .of_succ (.array hitems) fun level fuel rest hfuel => ?_
    rw [printAt, printItems_eq] at hfuel ⊢
    by_cases hne : items = []
    · subst hne
      rfl
    · have hmap : items.map (printAt (level + 1)) ≠ [] := by simpa using hne
      have hlength := length_join_lt_length_block '[' ']' hmap level
      have hbegins (item : Json) (hitem : item ∈ items) : Begins (printAt (level + 1) item) :=
        (hitems item hitem).begins _
      rw [block_append hmap]
      refine value_array ((Begins.join hmap (List.forall_mem_map.2 hbegins)).append _) _ ?_
      exact read_join hne hbegins (fun item hitem => (ih item hitem).takesPart _) (by omega) level
        rest
  | @object fields hnames hfields ih =>
    refine .of_succ (.object hnames hfields) fun level fuel rest hfuel => ?_
    rw [printAt, printFields_eq] at hfuel ⊢
    by_cases hne : fields = []
    · subst hne
      rfl
    · have hmap : fields.map (printField (level + 1)) ≠ [] := by simpa using hne
      have hlength := length_join_lt_length_block '\x7b' '\x7d' hmap level
      have hbegins (field : RawText × Json) (_ : field ∈ fields) :
          Begins (printField (level + 1) field) := .printField _ _
      rw [block_append hmap]
      refine value_object ((Begins.join hmap (List.forall_mem_map.2 hbegins)).append _) _ ?_
      refine read_join hne hbegins (fun field hfield => ?_) (by omega) level rest
      obtain ⟨name, hname⟩ := hnames field hfield
      obtain ⟨_, item⟩ := field
      obtain rfl := hname
      exact (ih _ hfield).takesPart_field (hfields _ hfield) _ name

/-- A printed value is read again, also with a line feed behind it. -/
theorem read_print {j : Json} (h : Plain j) : read (print j ++ ['\n']) = .ok j := by
  have hvalue := h.reads 0 (2 * (print j ++ ['\n']).length + 2) ['\n'] (by
    rw [print, List.length_append]
    omega)
  rw [read, print, (h.begins 0).skipBlanks_append]
  rw [print] at hvalue
  rw [hvalue]
  rfl

/-- Whether a text holds no control character but line feeds. -/
def IsShown (t : Text) : Prop := ∀ c ∈ t, c = '\n' ∨ 0x20 ≤ c.toNat

namespace IsShown

theorem append {s t : Text} (hs : IsShown s) (ht : IsShown t) : IsShown (s ++ t) :=
  List.forall_mem_append.2 ⟨hs, ht⟩

theorem cons {c : Char} {t : Text} (hc : 0x20 ≤ c.toNat) (ht : IsShown t) : IsShown (c :: t) :=
  List.forall_mem_cons.2 ⟨.inr hc, ht⟩

theorem nil : IsShown [] := List.forall_mem_nil _

theorem unitEscape {n : Nat} (hn : n < 0x10000) : IsShown (unitEscape n) := by
  have hdigit {m : Nat} (hm : m < 16) : 0x20 ≤ (Nat.digitChar m).toNat := by
    revert m
    decide
  rw [unitEscape_eq hn]
  exact cons (by decide) (cons (by decide) (cons (hdigit (by omega)) (cons (hdigit (by omega))
    (cons (hdigit (by omega)) (cons (hdigit (by omega)) nil)))))

theorem of_escaped {c : Char} {t : Text} (h : Escaped c t) : IsShown t := by
  have hvalid := Text.toNat_cases c
  cases h with
  | plain hquote hslash hc => exact cons hc nil
  | short hmark => exact cons (by decide) (cons hmark.2 nil)
  | unit hc => exact unitEscape hc
  | halves hc => exact (unitEscape (by omega)).append (unitEscape (by omega))

theorem escapedCodePoint (c : CodePoint) : IsShown (escapedCodePoint c) := by
  cases c with
  | char c => exact of_escaped (escaped_escapedChar c)
  | surrogate n => exact unitEscape (by simp only [CodePoint.toNat]; omega)

theorem printText (t : RawText) : IsShown (printText t) := by
  refine (cons (by decide) ?_).append (cons (by decide) nil)
  intro c hc
  obtain ⟨d, -, hc⟩ := List.mem_flatMap.1 hc
  exact escapedCodePoint d c hc

theorem lineStart (level : Nat) : IsShown (lineStart level) :=
  List.forall_mem_cons.2 ⟨.inl rfl, fun _ hc => .inr ((List.mem_replicate.1 hc).2 ▸ Nat.le_refl _)⟩

theorem join {s : Text} {parts : List Text} (hs : IsShown s) (h : ∀ part ∈ parts, IsShown part) :
    IsShown (Text.join s parts) := by
  intro c hc
  rcases Text.mem_of_mem_join hc with hc | ⟨part, hpart, hc⟩
  · exact hs c hc
  · exact h part hpart c hc

theorem block {opening closing : Char} {parts : List Text} (hopening : 0x20 ≤ opening.toNat)
    (hclosing : 0x20 ≤ closing.toNat) (level : Nat) (h : ∀ part ∈ parts, IsShown part) :
    IsShown (block opening closing level parts) := by
  unfold Json.block
  split
  · exact cons hopening (cons hclosing nil)
  · refine .append (.append (.append (cons hopening (lineStart _)) ?_) (lineStart _))
      (cons hclosing nil)
    exact join (cons (by decide) (lineStart _)) h

end IsShown

theorem Plain.isShown {j : Json} (h : Plain j) (level : Nat) :
    IsShown (printAt level j) := by
  induction h generalizing level with
  | null => simp [IsShown, printAt]
  | bool b => cases b <;> simp [IsShown, printAt]
  | text t => exact .printText t.raw
  | array hitems ih =>
    rw [printAt, printItems_eq]
    exact .block (by decide) (by decide) level
      (List.forall_mem_map.2 fun item hitem => ih item hitem _)
  | object hnames hfields ih =>
    rw [printAt, printFields_eq]
    refine .block (by decide) (by decide) level (List.forall_mem_map.2 fun field hfield => ?_)
    exact ((IsShown.printText _).append (by simp [IsShown])).append (ih field hfield _)

end DtoInterfaces.Json
