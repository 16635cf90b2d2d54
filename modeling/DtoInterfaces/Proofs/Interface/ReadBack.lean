import DtoInterfaces.Proofs.Interface.Naming
import DtoInterfaces.Proofs.Interface.Notices
import DtoInterfaces.Proofs.Text.Lines
import DtoInterfaces.Proofs.TypeExpr.FixedPoint

namespace DtoInterfaces.Interface

open Text TypeExpr

/-- A class whose names are words and whose types are written without a line feed. -/
structure IsPlain (c : ClassDecl) : Prop where
  name : IsWord c.name
  properties : ∀ p ∈ c.properties, (∃ name ∈ p.name, IsWord name) ∧ ∀ type ∈ p.type, '\n' ∉ type

instance (c : ClassDecl) : Decidable (IsPlain c) :=
  decidable_of_iff (IsWord c.name ∧ ∀ p ∈ c.properties,
    (∃ name ∈ p.name, IsWord name) ∧ ∀ type ∈ p.type, '\n' ∉ type)
    ⟨fun ⟨h1, h2⟩ => ⟨h1, h2⟩, fun ⟨h1, h2⟩ => ⟨h1, h2⟩⟩

/-- What the line of a property tells: its name as it is emitted, and its TypeScript type. -/
def member (o : EmissionOptions) (p : Property) : Text × Text :=
  (o.naming.convert (p.name.getD []), memberType p.type)

def members (o : EmissionOptions) (c : ClassDecl) : List (Text × Text) :=
  c.properties.map (member o)

def lineOf (o : EmissionOptions) (m : Text × Text) : RawText :=
  o.indentation ++ m.1.raw ++ ": " ++ m.2.raw ++ ";"

/-- The remark in place of the members of a class that has none. -/
def marker (o : EmissionOptions) : RawText := o.indentation ++ "// No properties"

/-- The lines of a declaration: one for every property between the opening and the closing one. -/
def declarationLines (o : EmissionOptions) (c : ClassDecl) : List RawText :=
  (opening o c.name).raw ::
    (if (members o c).isEmpty then [marker o] else (members o c).map (lineOf o)) ++
      [Text.raw ['}']]

theorem bodyLines_of_named (o : EmissionOptions) {c : ClassDecl}
    (hc : ∀ p ∈ c.properties, ∃ name ∈ p.name, IsWord name) :
    bodyLines o c =
      if (members o c).isEmpty then [marker o] else (members o c).map (lineOf o) := by
  have hl : ∀ p ∈ c.properties, memberLine? o p = some (lineOf o (member o p)) := by
    intro p hp
    obtain ⟨name, hn, w, rfl⟩ := hc p hp
    rw [Option.mem_def] at hn
    simp [memberLine?, memberLine, lineOf, member, hn, w.ne_nil]
  rw [bodyLines, List.filterMap_eq_map_iff_forall_eq_some.2 hl, members, List.isEmpty_map,
    List.map_map]
  rfl

theorem emit_of_named {o : EmissionOptions} (ho : o.stamped = false) (now : Timestamp) (log : Log)
    {c : ClassDecl} (hc : ∀ p ∈ c.properties, ∃ name ∈ p.name, IsWord name) :
    (emit o now log c).1 = join "\n" (declarationLines o c) := by
  rw [emit_fst, ho, bodyLines_of_named o hc]
  rfl

theorem IsPlain.emit_eq {o : EmissionOptions} (ho : o.stamped = false) (now : Timestamp) (log : Log)
    {c : ClassDecl} (hc : IsPlain c) : (emit o now log c).1 = join "\n" (declarationLines o c) :=
  emit_of_named ho now log fun p hp => (hc.properties p hp).1

theorem notMem_of_mem_members {o : EmissionOptions} {c : ClassDecl} (hc : IsPlain c)
    {m : Text × Text} (hm : m ∈ members o c) : '\n' ∉ m.1 ∧ ':' ∉ m.1 ∧ '\n' ∉ m.2 := by
  obtain ⟨p, hp, rfl⟩ := List.mem_map.1 hm
  obtain ⟨⟨name, hn, w, rfl⟩, ht⟩ := hc.properties p hp
  rw [member, hn]
  refine ⟨?_, ?_, ?_⟩
  · exact o.naming.notMem_convert (by decide) (w.notMem (by decide))
  · exact o.naming.notMem_convert (by decide) (w.notMem (by decide))
  · cases htype : p.type with
    | none =>
      show '\n' ∉ ("any" : Text)
      decide
    | some type => exact newline_notMem_project (ht type htype)

/-- No line of a declaration is blank, and each is one line. -/
theorem isLine_of_mem_declarationLines {o : EmissionOptions}
    (hi : .char '\n' ∉ o.indentation) {c : ClassDecl} (hc : IsPlain c) :
    ∀ l ∈ declarationLines o c, IsLine l := by
  have hopening : IsLine (opening o c.name).raw := by
    obtain ⟨w, hw⟩ := hc.name
    have hn : '\n' ∉ w.text := w.notMem (by decide)
    constructor
    · rw [Ne, raw_eq_nil]
      exact List.append_ne_nil_of_right_ne_nil _ (by decide)
    · simp only [char_mem_raw, opening, hw, List.mem_append, not_or]
      refine ⟨⟨⟨?_, by decide⟩, hn⟩, by decide⟩
      split <;> decide
  have hmarker : IsLine (marker o) := ⟨by simp [marker], by simp [marker, hi]⟩
  have hmember : ∀ m ∈ members o c, IsLine (lineOf o m) := by
    intro m hm
    obtain ⟨h1, -, h2⟩ := notMem_of_mem_members hc hm
    exact ⟨by simp [lineOf], by simp [lineOf, hi, h1, h2]⟩
  intro l hl
  simp only [declarationLines, List.cons_append, List.mem_cons, List.mem_append,
    List.not_mem_nil, or_false] at hl
  rcases hl with rfl | hl | rfl
  · exact hopening
  · split at hl
    · rw [List.mem_singleton.1 hl]
      exact hmarker
    · obtain ⟨m, hm, rfl⟩ := List.mem_map.1 hl
      exact hmember m hm
  · exact ⟨by decide, by decide⟩

theorem splitOn_emit {o : EmissionOptions} (ho : o.stamped = false)
    (hi : .char '\n' ∉ o.indentation) (now : Timestamp) (log : Log) {c : ClassDecl}
    (hc : IsPlain c) :
    (emit o now log c).1.splitOn (.char '\n') = declarationLines o c := by
  rw [hc.emit_eq ho now log]
  apply splitOn_join
  · simp [declarationLines]
  · intro l hl
    exact (isLine_of_mem_declarationLines hi hc l hl).2

theorem emitAll_fst {o : EmissionOptions} (ho : o.stamped = false) (clock : Clock)
    (now : Timestamp) (log : Log) (cs : List ClassDecl) :
    (emitAll o clock log cs).1 = join "\n\n" (cs.map fun c => (emit o now log c).1) := by
  rw [emitAll_eq, declarations_of_unstamped ho clock now log]

theorem paragraphs_emitAll {o : EmissionOptions} (ho : o.stamped = false)
    (hi : .char '\n' ∉ o.indentation) (clock : Clock) (now : Timestamp) (log : Log)
    {cs : List ClassDecl} (hne : cs ≠ []) (hcs : ∀ c ∈ cs, IsPlain c) :
    paragraphs (emitAll o clock log cs).1 = cs.map fun c => (emit o now log c).1 := by
  rw [emitAll_fst ho clock now]
  apply paragraphs_join
  · simpa using hne
  · intro t ht
    obtain ⟨c, hc, rfl⟩ := List.mem_map.1 ht
    exact ⟨declarationLines o c, by simp [declarationLines],
      isLine_of_mem_declarationLines hi (hcs c hc), (hcs c hc).emit_eq ho now log⟩

theorem lineOf_inj {o : EmissionOptions} {m m' : Text × Text} (hm : ':' ∉ m.1) (hm' : ':' ∉ m'.1)
    (h : lineOf o m = lineOf o m') : m = m' := by
  simp only [lineOf, List.append_assoc, List.append_cancel_left_eq, ← raw_append, raw_inj] at h
  obtain ⟨h1, h2⟩ := eq_of_append_cons_eq hm hm' h
  refine Prod.ext h1 ?_
  simpa using h2

/-- The remark ends otherwise than any member. -/
theorem marker_ne_lineOf (o : EmissionOptions) (m : Text × Text) : marker o ≠ lineOf o m := by
  intro h
  have hl := congrArg List.getLast? h
  rw [marker, lineOf, List.getLast?_append_of_ne_nil _ (by decide),
    List.getLast?_append_of_ne_nil _ (by decide)] at hl
  exact absurd hl (by decide)

theorem opening_inj {o : EmissionOptions} {name name' : Text}
    (h : opening o name = opening o name') : name = name' := by
  simp only [opening, List.append_assoc, List.append_cancel_left_eq] at h
  exact List.append_cancel_right h

/-- Lists with equal images under `f` have equal images under `g`, where single elements have. -/
theorem map_eq_map_iff {α β γ : Type} {f : α → β} {g : α → γ} {P : α → Prop}
    (h : ∀ a b, P a → P b → (f a = f b ↔ g a = g b)) {as bs : List α} (ha : ∀ a ∈ as, P a)
    (hb : ∀ b ∈ bs, P b) : as.map f = bs.map f ↔ as.map g = bs.map g := by
  induction as generalizing bs with
  | nil => simp
  | cons a as ih =>
    cases bs with
    | nil => simp
    | cons b bs =>
      obtain ⟨ha, has⟩ := List.forall_mem_cons.1 ha
      obtain ⟨hb, hbs⟩ := List.forall_mem_cons.1 hb
      rw [List.map_cons, List.map_cons, List.map_cons, List.map_cons, List.cons.injEq,
        List.cons.injEq, h a b ha hb, ih has hbs]

/-- What is told of a class: its name and its members. -/
def signature (o : EmissionOptions) (c : ClassDecl) : Text × List (Text × Text) :=
  (c.name, members o c)

theorem members_eq_of_lines_eq {o : EmissionOptions} {ms ms' : List (Text × Text)}
    (hms : ∀ m ∈ ms, ':' ∉ m.1) (hms' : ∀ m ∈ ms', ':' ∉ m.1)
    (h : (if ms.isEmpty then [marker o] else ms.map (lineOf o)) =
      if ms'.isEmpty then [marker o] else ms'.map (lineOf o)) : ms = ms' := by
  rcases ms with _ | ⟨m, ms⟩
  · rcases ms' with _ | ⟨m', ms'⟩
    · rfl
    · exact absurd (List.cons.inj h).1 (marker_ne_lineOf o m')
  · rcases ms' with _ | ⟨m', ms'⟩
    · exact absurd (List.cons.inj h).1.symm (marker_ne_lineOf o m)
    · have hl : ∀ m m' : Text × Text, ':' ∉ m.1 → ':' ∉ m'.1 →
          (lineOf o m = lineOf o m' ↔ id m = id m') := by
        intro m m' hm hm'
        exact ⟨lineOf_inj hm hm', congrArg (lineOf o)⟩
      simpa using (map_eq_map_iff hl hms hms').1 h

theorem declarationLines_eq_iff (o : EmissionOptions) {c d : ClassDecl} (hc : IsPlain c)
    (hd : IsPlain d) :
    declarationLines o c = declarationLines o d ↔ signature o c = signature o d := by
  constructor
  · intro h
    obtain ⟨hopening, hbody⟩ := List.cons.inj h
    have hm := members_eq_of_lines_eq (fun m hm => (notMem_of_mem_members hc hm).2.1)
      (fun m hm => (notMem_of_mem_members hd hm).2.1) (List.append_cancel_right hbody)
    exact Prod.ext (opening_inj (raw_injective hopening)) hm
  · intro h
    obtain ⟨hname, hmembers⟩ := Prod.mk.inj h
    rw [declarationLines, declarationLines, hname, hmembers]

/-- The text of a list of classes is cut at its blank lines into one declaration for each class,
and a declaration at its line feeds into its lines. Two lists have one text just when they have the
same class names with the same members, in the same order. -/
theorem emitAll_readBack {o : EmissionOptions} (ho : o.stamped = false)
    (hi : .char '\n' ∉ o.indentation) (clock : Clock) (now : Timestamp) (log : Log)
    {cs : List ClassDecl} (hne : cs ≠ []) (hcs : ∀ c ∈ cs, IsPlain c) :
    paragraphs (emitAll o clock log cs).1 = cs.map (fun c => (emit o now log c).1) ∧
    (∀ c ∈ cs, (emit o now log c).1.splitOn (.char '\n') = declarationLines o c) ∧
    ∀ ds ≠ [], (∀ d ∈ ds, IsPlain d) →
      ((emitAll o clock log cs).1 = (emitAll o clock log ds).1 ↔
        cs.map (signature o) = ds.map (signature o)) := by
  refine ⟨paragraphs_emitAll ho hi clock now log hne hcs,
    fun c hc => splitOn_emit ho hi now log (hcs c hc), ?_⟩
  intro ds hne' hds
  have htext : (emitAll o clock log cs).1 = (emitAll o clock log ds).1 ↔
      cs.map (fun c => (emit o now log c).1) = ds.map (fun c => (emit o now log c).1) := by
    constructor
    · intro h
      rw [← paragraphs_emitAll ho hi clock now log hne hcs, h,
        paragraphs_emitAll ho hi clock now log hne' hds]
    · intro h
      rw [emitAll_fst ho clock now, emitAll_fst ho clock now, h]
  rw [htext]
  apply map_eq_map_iff _ hcs hds
  intro c d hc hd
  rw [← declarationLines_eq_iff o hc hd]
  constructor
  · intro h
    rw [← splitOn_emit ho hi now log hc, h, splitOn_emit ho hi now log hd]
  · intro h
    rw [hc.emit_eq ho now log, hd.emit_eq ho now log, h]

/-- Names and types that differ in the source and are emitted alike, in a class behind an empty
one. -/
theorem emitAll_readBack_alike :
    ∃ (o : EmissionOptions) (clock : Clock) (a b b' : ClassDecl),
      o = { stamped := false, naming := .camelCase } ∧ a = ⟨"Empty", []⟩ ∧
      b = ⟨"Order", [⟨some "Tags", some "List<string?>"⟩, ⟨some "x", none⟩]⟩ ∧
      b' = ⟨"Order", [⟨some "tags", some "string ?[]"⟩, ⟨some "x", some "var"⟩]⟩ ∧
      (∀ c ∈ [a, b], IsPlain c) ∧ (∀ c ∈ [a, b'], IsPlain c) ∧
      (emitAll o clock none [a, b]).1 = (emitAll o clock none [a, b']).1 ∧
      paragraphs (emitAll o clock none [a, b]).1 =
        [("export interface Empty \x7b\n  // No properties\n\x7d" : RawText),
          "export interface Order \x7b\n  tags: (string | null)[];\n  x: any;\n\x7d"] := by
  have hcs : ∀ c ∈ [⟨"Empty", []⟩,
      ⟨"Order", [⟨some "Tags", some "List<string?>"⟩, ⟨some "x", none⟩]⟩], IsPlain c := by
    decide +kernel
  have hds : ∀ c ∈ [⟨"Empty", []⟩,
      ⟨"Order", [⟨some "tags", some "string ?[]"⟩, ⟨some "x", some "var"⟩]⟩], IsPlain c := by
    decide +kernel
  have h := emitAll_readBack (o := { stamped := false, naming := .camelCase }) rfl (by decide)
    (.stopped ⟨2024, 1, 2, 3, 4, 5, 0, none⟩) ⟨2024, 1, 2, 3, 4, 5, 0, none⟩ none
    (List.cons_ne_nil _ _) hcs
  refine ⟨_, .stopped ⟨2024, 1, 2, 3, 4, 5, 0, none⟩, _, _, _, rfl, rfl, rfl, rfl, hcs, hds, ?_, ?_⟩
  · exact (h.2.2 _ (List.cons_ne_nil _ _) hds).2 (by decide +kernel)
  · rw [h.1]
    decide +kernel

end DtoInterfaces.Interface
