import DtoInterfaces.Proofs.Interface.Lines
import DtoInterfaces.Proofs.Text.Raw

namespace DtoInterfaces

@[simp] theorem Clock.after_zero (clock : Clock) : clock.after 0 = clock :=
  funext fun k => congrArg clock (Nat.zero_add k)

namespace Interface

open TypeExpr

/-- What is reported of the type of a property: each custom name that stands in it. -/
def typeNotices (owner : Text) : Option Text → List Diagnostic
  | none => []
  | some type => (references type).map fun name => .customType name (some owner) []

/-- What is reported of a property. -/
def notices (owner : Text) : Property → List Diagnostic
  | ⟨none, _⟩ | ⟨some [], _⟩ => [.unnamedProperty (some owner) []]
  | ⟨some name, none⟩ => [.untypedProperty name (some owner) []]
  | ⟨some _, some type⟩ => typeNotices owner (some type)

def classNotices (c : ClassDecl) : List Diagnostic := c.properties.flatMap (notices c.name)

def reportAll (log : Log) (ds : List Diagnostic) : Log := log.map (·.reportAll ds)

@[simp] theorem reportAll_nil (log : Log) : reportAll log [] = log := by
  cases log <;> rfl

@[simp] theorem reportAll_reportAll (log : Log) (ds es : List Diagnostic) :
    reportAll (reportAll log ds) es = reportAll log (ds ++ es) := by
  cases log <;> simp [reportAll]

theorem report_eq_reportAll (log : Log) (d : Diagnostic) : report log d = reportAll log [d] := by
  cases log <;> simp [report, reportAll, Collector.report]

theorem emitType_snd (owner : Text) (log : Log) (type : Option Text) :
    (emitType owner log type).2 = reportAll log (typeNotices owner type) := by
  cases type with
  | none => simp [emitType, typeNotices]
  | some type =>
    simp only [emitType, typeNotices]
    induction references type generalizing log with
    | nil => simp
    | cons name names ih => rw [List.foldl_cons, ih, report_eq_reportAll, reportAll_reportAll]; rfl

theorem emitProperty_snd (o : EmissionOptions) (owner : Text) (log : Log) (p : Property) :
    (emitProperty o owner log p).2 = reportAll log (notices owner p) := by
  obtain ⟨name, type⟩ := p
  unfold emitProperty notices
  rcases name with _ | _ | ⟨a, name⟩
  · exact report_eq_reportAll log _
  · exact report_eq_reportAll log _
  · cases type with
    | none => simp [emitType, report_eq_reportAll]
    | some type => simpa using emitType_snd owner log (some type)

theorem emitProperties_snd (o : EmissionOptions) (owner : Text) (log : Log) (ps : List Property) :
    (emitProperties o owner log ps).2 = reportAll log (ps.flatMap (notices owner)) := by
  induction ps generalizing log with
  | nil => simp [emitProperties]
  | cons p ps ih =>
    simp only [emitProperties, ih, emitProperty_snd, reportAll_reportAll, List.flatMap_cons]

theorem emit_snd (o : EmissionOptions) (now : Timestamp) (log : Log) (c : ClassDecl) :
    (emit o now log c).2 = reportAll log (classNotices c) := by
  simp only [emit, emitBody, classNotices]
  split
  · next h => simp [List.isEmpty_iff.1 h]
  · exact emitProperties_snd o c.name log c.properties

/-- The declarations for several classes, each with the time of the reading that it is due. -/
def declarations (o : EmissionOptions) (clock : Clock) (cs : List ClassDecl) : List RawText :=
  cs.mapIdx fun k c => (emit o (clock (k * readings o)) none c).1

theorem declarations_cons (o : EmissionOptions) (clock : Clock) (c : ClassDecl)
    (cs : List ClassDecl) : declarations o clock (c :: cs) =
      (emit o (clock 0) none c).1 :: declarations o (clock.after (readings o)) cs := by
  simp only [declarations, List.mapIdx_cons, Nat.zero_mul, Clock.after, Nat.succ_mul, Nat.add_comm]

theorem declarations_append (o : EmissionOptions) (clock : Clock) (as bs : List ClassDecl) :
    declarations o clock (as ++ bs) =
      declarations o clock as ++ declarations o (clock.after (as.length * readings o)) bs := by
  simp only [declarations, List.mapIdx_append, Clock.after, Nat.add_mul, Nat.add_comm]

theorem emitEach_eq (o : EmissionOptions) (clock : Clock) (log : Log) (cs : List ClassDecl) :
    emitEach o clock log cs =
      (declarations o clock cs, reportAll log (cs.flatMap classNotices)) := by
  induction cs generalizing clock log with
  | nil => simp [emitEach, declarations]
  | cons c cs ih =>
    simp only [emitEach, ih, emit_snd, reportAll_reportAll, List.flatMap_cons, declarations_cons,
      emit_fst]

theorem surrogate_mem_of_mem_declarations {o : EmissionOptions} {clock : Clock}
    {cs : List ClassDecl} {n : Fin 0x800}
    (hn : .surrogate n ∈ Text.join "\n\n" (declarations o clock cs)) :
    .surrogate n ∈ o.indentation := by
  rcases Text.mem_of_mem_join hn with hn | ⟨t, ht, hn⟩
  · exact absurd hn Text.surrogate_notMem_raw
  · obtain ⟨k, hk, rfl⟩ := List.mem_mapIdx.1 ht
    exact surrogate_mem_of_mem_emit hn

/-- Without time stamps it does not matter what the clock shows. -/
theorem declarations_of_unstamped {o : EmissionOptions} (ho : o.stamped = false) (clock : Clock)
    (now : Timestamp) (log : Log) (cs : List ClassDecl) :
    declarations o clock cs = cs.map fun c => (emit o now log c).1 := by
  induction cs generalizing clock with
  | nil => rfl
  | cons c cs ih =>
    rw [declarations_cons, ih, List.map_cons, emit_fst, emit_fst]
    simp only [ho, Bool.false_eq_true, if_false]

theorem emitAll_eq (o : EmissionOptions) (clock : Clock) (log : Log) (cs : List ClassDecl) :
    emitAll o clock log cs = (Text.join "\n\n" (declarations o clock cs),
      reportAll log (cs.flatMap classNotices)) := by
  rw [emitAll, emitEach_eq]

theorem of_mem_typeNotices {owner : Text} {type : Option Text} {d : Diagnostic}
    (h : d ∈ typeNotices owner type) : ∃ name, d = .customType name (some owner) [] := by
  cases type with
  | none => cases h
  | some type =>
    obtain ⟨name, -, rfl⟩ := List.mem_map.1 h
    exact ⟨name, rfl⟩

theorem countP_typeNotices (owner : Text) (type : Option Text) {code : Text} (h : code ≠ "I001") :
    (typeNotices owner type).countP (·.code == code) = 0 := by
  rw [List.countP_eq_zero]
  intro d hd
  obtain ⟨name, rfl⟩ := of_mem_typeNotices hd
  simpa [Diagnostic.customType] using h.symm

theorem of_mem_notices {owner : Text} {p : Property} {d : Diagnostic} (h : d ∈ notices owner p) :
    d = .unnamedProperty (some owner) [] ∨ (∃ name, d = .untypedProperty name (some owner) []) ∨
      ∃ name, d = .customType name (some owner) [] := by
  obtain ⟨_ | _ | ⟨a, name⟩, _ | type⟩ := p
  case some.cons.some =>
    exact .inr (.inr (of_mem_typeNotices (show d ∈ typeNotices owner (some type) from h)))
  case some.cons.none => exact .inr (.inl ⟨a :: name, List.mem_singleton.1 h⟩)
  all_goals exact .inl (List.mem_singleton.1 h)

theorem owner_of_mem_notices {owner : Text} {p : Property} {d : Diagnostic}
    (h : d ∈ notices owner p) : d.owner = some owner := by
  rcases of_mem_notices h with rfl | ⟨name, rfl⟩ | ⟨name, rfl⟩ <;> rfl

def isNamed (p : Property) : Bool := p.name.any fun name => !name.isEmpty

theorem countP_unnamed (owner : Text) (p : Property) :
    (notices owner p).countP (·.code == ("W003" : Text)) = if isNamed p then 0 else 1 := by
  obtain ⟨_ | _ | ⟨a, name⟩, _ | type⟩ := p
  all_goals try rfl
  exact countP_typeNotices owner (some type) (by decide)

theorem countP_untyped (owner : Text) (p : Property) :
    (notices owner p).countP (·.code == ("W002" : Text)) =
      if isNamed p && p.type.isNone then 1 else 0 := by
  obtain ⟨_ | _ | ⟨a, name⟩, _ | type⟩ := p
  all_goals try rfl
  exact countP_typeNotices owner (some type) (by decide)

/-- A property is named, or reported to have no name. -/
theorem length_named_add_countP (owner : Text) (ps : List Property) :
    (ps.filter isNamed).length +
      (ps.flatMap (notices owner)).countP (·.code == ("W003" : Text)) = ps.length := by
  induction ps with
  | nil => rfl
  | cons p ps ih =>
    rw [List.flatMap_cons, List.countP_append, countP_unnamed, List.length_cons, List.filter_cons]
    split
    · rw [List.length_cons]
      omega
    · omega

/-- A named property has a type, or is reported to have none. -/
theorem countP_named_untyped (owner : Text) (ps : List Property) :
    (ps.filter isNamed).countP (·.type.isNone) =
      (ps.flatMap (notices owner)).countP (·.code == ("W002" : Text)) := by
  induction ps with
  | nil => rfl
  | cons p ps ih =>
    rw [List.flatMap_cons, List.countP_append, countP_untyped, List.filter_cons]
    by_cases hn : isNamed p
    · rw [if_pos hn, List.countP_cons, ih, hn, Bool.true_and, Nat.add_comm]
    · rw [if_neg hn, ih]
      simp [hn]

/-- The properties that have a line, each with its line. -/
def lined (o : EmissionOptions) (ps : List Property) : List (Property × RawText) :=
  (ps.filter isNamed).map fun p => (p, memberLine o (p.name.getD []) p.type)

theorem map_fst_lined (o : EmissionOptions) (ps : List Property) :
    (lined o ps).map Prod.fst = ps.filter isNamed := by
  rw [lined, List.map_map]
  exact List.map_id _

theorem map_snd_lined (o : EmissionOptions) (owner : Text) (log : Log) (ps : List Property) :
    (lined o ps).map Prod.snd = (emitProperties o owner log ps).1 := by
  rw [emitProperties_fst, lined, List.map_map]
  induction ps with
  | nil => rfl
  | cons p ps ih =>
    obtain ⟨_ | _ | ⟨a, name⟩, type⟩ := p
    · exact ih
    · exact ih
    · exact congrArg (memberLine o (a :: name) type :: ·) ih

theorem bodyLines_eq_lined (o : EmissionOptions) (c : ClassDecl) :
    bodyLines o c = if c.properties = [] then [o.indentation ++ "// No properties"]
      else (lined o c.properties).map Prod.snd := by
  rw [bodyLines, map_snd_lined o c.name none, emitProperties_fst]
  simp only [List.isEmpty_iff]

theorem suffix_of_mem_lined {o : EmissionOptions} {ps : List Property} {m : Property × RawText}
    (hm : m ∈ lined o ps) (ht : m.1.type = none) : (": any;" : RawText) <:+ m.2 := by
  obtain ⟨p, -, rfl⟩ := List.mem_map.1 hm
  rw [show p.type = none from ht]
  exact ⟨o.indentation ++ (o.naming.convert (p.name.getD [])).raw, by
    simp [memberLine, memberType]⟩

/-- Emission says the same with a collector as without one. It leaves what was reported before and
adds its own reports behind, in the order of the classes and their properties. The text is made of
one declaration a class, and that has a line for each of the named properties, in their order, and
no line for the others, which are reported to have no name; lines that say `any` for want of a type
are as many as reports of that. -/
theorem emitAll_reports (o : EmissionOptions) (clock : Clock) (held : Collector)
    (cs : List ClassDecl) :
    emitAll o clock (some held) cs = ((emitAll o clock none cs).1,
      some { held with entries := held.entries ++ cs.flatMap classNotices }) ∧
    (emitAll o clock none cs).1 = Text.join "\n\n"
      (cs.mapIdx fun k c => (emit o (clock (k * readings o)) none c).1) ∧
    ∀ c, (∀ d ∈ classNotices c, d.owner = some c.name) ∧
      ∃ lines : List (Property × RawText),
        lines.map Prod.fst = c.properties.filter isNamed ∧
        lines.map Prod.snd = (emitProperties o c.name (some held) c.properties).1 ∧
        (∀ now log, (emit o now log c).1 = Text.join "\n"
          (((if o.stamped then stamp now else []) ++ [opening o c.name]).map Text.raw ++
            (if c.properties = [] then [o.indentation ++ "// No properties"]
              else lines.map Prod.snd) ++ [Text.raw ['}']])) ∧
        lines.length + (classNotices c).countP (·.code == ("W003" : Text)) =
          c.properties.length ∧
        lines.countP (·.1.type.isNone) = (classNotices c).countP (·.code == ("W002" : Text)) ∧
        ∀ m ∈ lines, m.1.type = none → (": any;" : RawText) <:+ m.2 := by
  refine ⟨?_, ?_, fun c => ⟨?_, lined o c.properties, map_fst_lined o _, map_snd_lined o _ _ _,
    fun now log => ?_, ?_, ?_, fun m => suffix_of_mem_lined⟩⟩
  · simp [emitAll_eq, reportAll]
  · rw [emitAll_eq]
    rfl
  · intro d hd
    obtain ⟨p, -, hp⟩ := List.mem_flatMap.1 hd
    exact owner_of_mem_notices hp
  · rw [emit_fst, bodyLines_eq_lined]
  · rw [lined, List.length_map]
    exact length_named_add_countP c.name c.properties
  · rw [lined, List.countP_map]
    exact countP_named_untyped c.name c.properties

/-- A name that stands in a type twice is reported once. -/
example : classNotices ⟨"Order", [⟨some "Tags", some "Dictionary<Tag, List<Item>[Tag]>"⟩,
      ⟨none, some "Tag"⟩, ⟨some "Id", none⟩]⟩ =
    [.customType "Tag" (some "Order") [], .customType "Item" (some "Order") [],
      .unnamedProperty (some "Order") [], .untypedProperty "Id" (some "Order") []] := by
  decide +kernel

end Interface

end DtoInterfaces
