import DtoInterfaces.Proofs.Session.Batch
import DtoInterfaces.Proofs.Text.Lines

namespace DtoInterfaces

open Interface

/-- The sources without a class. -/
def unparsed (sources : List (RawText × Text)) : List (RawText × Text) :=
  sources.filter fun source => (Source.classDecl? source.2).isNone

/-- The classes of those sources that have one and the reports on the others, both in the order of
the sources. -/
structure TakesApart (sources : List (RawText × Text)) (classes : List ClassDecl)
    (reports : List Diagnostic) : Prop where
  classes_eq : classes = sources.filterMap (Source.classDecl? ·.2)
  reports_eq : reports = (unparsed sources).map fun source => .unparsedSource source.1
  code_eq : ∀ d ∈ reports, d.code = "W001"
  files_eq : reports.map (·.file) = (unparsed sources).map Prod.fst
  length_eq : classes.length + reports.length = sources.length

theorem length_filterMap_add_length_unparsed (sources : List (RawText × Text)) :
    (sources.filterMap (Source.classDecl? ·.2)).length + (unparsed sources).length =
      sources.length := by
  rw [List.length_filterMap_eq_countP, unparsed, ← List.countP_eq_length_filter,
    List.length_eq_countP_add_countP fun source => (Source.classDecl? source.2).isSome]
  congr 2
  funext source
  cases Source.classDecl? source.2 <;> rfl

theorem takesApart (sources : List (RawText × Text)) :
    TakesApart sources (sources.filterMap (Source.classDecl? ·.2))
      ((unparsed sources).map fun source => .unparsedSource source.1) where
  classes_eq := rfl
  reports_eq := rfl
  code_eq := by
    intro d hd
    obtain ⟨source, -, rfl⟩ := List.mem_map.1 hd
    rfl
  files_eq := List.map_map
  length_eq := by
    rw [List.length_map]
    exact length_filterMap_add_length_unparsed sources

theorem flatMap_unparsedNotices (sources : List (RawText × Text)) :
    sources.flatMap unparsedNotices =
      (unparsed sources).map fun source => .unparsedSource source.1 := by
  induction sources with
  | nil => rfl
  | cons source sources ih =>
    rw [List.flatMap_cons, ih, unparsedNotices, unparsed, unparsed, List.filter_cons]
    split <;> rfl

/-- What is said of a source while it is parsed. -/
def remark (source : RawText × Text) : RawText :=
  match Source.classDecl? source.2 with
  | none => "No class found in " ++ source.1
  | some parsed =>
    "Parsed class structure: " ++ parsed.name.raw ++ " (" ++
      (Text.decimal parsed.properties.length).raw ++ " properties) from " ++ source.1

theorem parseSources_snd_fst (c : Collector) (sources : List (RawText × Text)) :
    (parseSources c sources).2.1 = sources.map remark := by
  induction sources generalizing c with
  | nil => rfl
  | cons source sources ih =>
    obtain ⟨identifier, t⟩ := source
    rw [parseSources, List.map_cons, remark]
    cases Source.classDecl? t with
    | none => simp only [ih]
    | some parsed => simp only [ih]

namespace Session

theorem debug_append (s : Setup) (as bs : List RawText) :
    debug s (as ++ bs) = debug s as ++ debug s bs := by
  unfold debug
  split
  · exact List.map_append
  · rfl

theorem parse_eq (s : Setup) (σ : Session) (sources : List (RawText × Text)) :
    parse s σ sources = ⟨.ok (sources.filterMap (Source.classDecl? ·.2)),
      debug s (sources.map remark),
      σ.reported ((unparsed sources).map fun source => .unparsedSource source.1)⟩ := by
  unfold parse
  simp only [parseSources_fst, parseSources_snd_fst, parseSources_snd_snd, flatMap_unparsedNotices]
  rfl

/-- The interfaces of two lists are those of the first and, by the clock as it is then, those of the
second. -/
theorem generate_append (s : Setup) (σ τ υ : Session) (clock : Clock) {as bs : List ClassDecl}
    (ha : as ≠ []) (hb : bs ≠ []) :
    ∃ t u, (generate s { σ with clock } as).result = .ok t ∧
      (generate s { τ with
        clock := clock.after (as.length * readings s.config.options) } bs).result = .ok u ∧
      (generate s { υ with clock } (as ++ bs)).result = .ok (t ++ "\n\n" ++ u) := by
  refine ⟨_, _, by rw [generate_eq], by rw [generate_eq], ?_⟩
  rw [generate_eq, declarations_append, Text.join_append]
  · simpa [declarations] using ha
  · simpa [declarations] using hb

/-- Parsing takes its sources apart, whatever was reported before. Two lists of sources come to the
classes of the first and then of the second, with the same reports and lines printed; and where
both have a class and no time passes, a blank line stands between the interfaces of the first and of
the second. -/
theorem parse_takes_apart (s : Setup) (σ τ υ : Session) (as bs : List (RawText × Text)) :
    ∃ (ca cb : List ClassDecl) (ra rb : List Diagnostic) (pa pb : List RawText),
      parse s σ as = ⟨.ok ca, pa, σ.reported ra⟩ ∧ TakesApart as ca ra ∧
      parse s τ bs = ⟨.ok cb, pb, τ.reported rb⟩ ∧ TakesApart bs cb rb ∧
      parse s υ (as ++ bs) = ⟨.ok (ca ++ cb), pa ++ pb, υ.reported (ra ++ rb)⟩ ∧
      ∀ now, ca ≠ [] → cb ≠ [] → ∃ t u,
        (generate s { σ with clock := .stopped now } ca).result = .ok t ∧
        (generate s { τ with clock := .stopped now } cb).result = .ok u ∧
        (generate s { υ with clock := .stopped now } (ca ++ cb)).result =
          .ok (t ++ "\n\n" ++ u) := by
  refine ⟨_, _, _, _, _, _, parse_eq s σ as, takesApart as, parse_eq s τ bs, takesApart bs, ?_, ?_⟩
  · rw [parse_eq, unparsed, List.filterMap_append, List.map_append, debug_append,
      List.filter_append, List.map_append]
    rfl
  · intro now ha hb
    exact generate_append s σ τ υ (.stopped now) ha hb

def orderSource : RawText × Text := ⟨"Order.cs", "public class Order \x7b \x7d"⟩

def readmeSource : RawText × Text := ⟨"Readme.cs", "// Nothing here."⟩

def tagSource : RawText × Text := ⟨"Tag.cs", "public class Tag \x7b \x7d"⟩

/-- Sources without a class between two that have one leave no mark in the interfaces. -/
theorem parse_takes_apart_mixedSources :
    parse mixedSetup mixedSession ([orderSource, readmeSource] ++ [readmeSource, tagSource]) =
      ⟨.ok [⟨"Order", []⟩, ⟨"Tag", []⟩], [],
        mixedSession.reported [.unparsedSource "Readme.cs", .unparsedSource "Readme.cs"]⟩ ∧
    (generate mixedSetup mixedSession [⟨"Order", []⟩, ⟨"Tag", []⟩]).result =
      .ok ("export interface Order \x7b\n  // No properties\n\x7d\n\n" ++
        "export interface Tag \x7b\n  // No properties\n\x7d") := by
  obtain ⟨ca, cb, ra, rb, pa, pb, ha, hpa, hb, hpb, hab, hgenerate⟩ :=
    parse_takes_apart mixedSetup mixedSession mixedSession mixedSession [orderSource, readmeSource]
      [readmeSource, tagSource]
  have hca : ca = [⟨"Order", []⟩] := hpa.classes_eq.trans (by decide +kernel)
  have hcb : cb = [⟨"Tag", []⟩] := hpb.classes_eq.trans (by decide +kernel)
  have hra : ra = [.unparsedSource "Readme.cs"] := hpa.reports_eq.trans (by decide +kernel)
  have hrb : rb = [.unparsedSource "Readme.cs"] := hpb.reports_eq.trans (by decide +kernel)
  have hqa : pa = [] := (congrArg Outcome.printed ha).symm
  have hqb : pb = [] := (congrArg Outcome.printed hb).symm
  rw [hca, hcb] at hgenerate
  obtain ⟨t, u, ht, hu, htu⟩ := hgenerate ⟨2024, 1, 2, 3, 4, 5, 0, none⟩
    (List.cons_ne_nil _ _) (List.cons_ne_nil _ _)
  obtain rfl : _ = t := Except.ok.inj ht
  obtain rfl : _ = u := Except.ok.inj hu
  constructor
  · rw [hab, hca, hcb, hra, hrb, hqa, hqb]
    rfl
  · exact htu.trans (by decide +kernel)

end Session

end DtoInterfaces
