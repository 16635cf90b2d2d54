import DtoInterfaces.Interface.Emission
import DtoInterfaces.Proofs.Text.Lines

namespace DtoInterfaces.Interface

open TypeExpr

@[simp] theorem indent_one (o : EmissionOptions) : o.indent 1 = o.indentation := by
  simp [EmissionOptions.indent]

def memberType : Option Text → Text
  | none => "any"
  | some type => project type

def memberLine (o : EmissionOptions) (name : Text) (type : Option Text) : RawText :=
  o.indentation ++ (o.naming.convert name).raw ++ ": " ++ (memberType type).raw ++ ";"

/-- The line of a property that has a name. -/
def memberLine? (o : EmissionOptions) (p : Property) : Option RawText :=
  (p.name.filter fun name => !name.isEmpty).map fun name => memberLine o name p.type

def bodyLines (o : EmissionOptions) (c : ClassDecl) : List RawText :=
  if c.properties.isEmpty then [o.indentation ++ "// No properties"]
  else c.properties.filterMap (memberLine? o)

theorem emitType_fst (owner : Text) (log : Log) (type : Option Text) :
    (emitType owner log type).1 = memberType type := by
  cases type <;> rfl

theorem emitProperty_fst (o : EmissionOptions) (owner : Text) (log : Log) (p : Property) :
    (emitProperty o owner log p).1 = memberLine? o p := by
  obtain ⟨name, type⟩ := p
  unfold emitProperty memberLine?
  rcases name with _ | _ | ⟨a, name⟩
  · rfl
  · rfl
  · simp only [emitType_fst, indent_one]
    rfl

theorem emitProperties_fst (o : EmissionOptions) (owner : Text) (log : Log) (ps : List Property) :
    (emitProperties o owner log ps).1 = ps.filterMap (memberLine? o) := by
  induction ps generalizing log with
  | nil => rfl
  | cons p ps ih =>
    simp only [emitProperties, ih, emitProperty_fst, List.filterMap_cons]
    cases memberLine? o p <;> rfl

theorem emitBody_fst (o : EmissionOptions) (log : Log) (c : ClassDecl) :
    (emitBody o log c).1 = bodyLines o c := by
  unfold emitBody bodyLines
  split
  · rw [indent_one]
  · exact emitProperties_fst o c.name log c.properties

theorem emit_fst (o : EmissionOptions) (now : Timestamp) (log : Log) (c : ClassDecl) :
    (emit o now log c).1 = Text.join "\n"
      (((if o.stamped then stamp now else []) ++ [opening o c.name]).map Text.raw ++
        bodyLines o c ++ [Text.raw ['}']]) := by
  rw [emit, ← emitBody_fst o log c]

section Surrogates

variable {o : EmissionOptions} {c : ClassDecl} {n : Fin 0x800}

theorem surrogate_mem_of_mem_bodyLines {l : RawText} (hl : l ∈ bodyLines o c)
    (hn : .surrogate n ∈ l) : .surrogate n ∈ o.indentation := by
  unfold bodyLines at hl
  split at hl
  · obtain rfl := List.mem_singleton.1 hl
    simpa using hn
  · obtain ⟨p, -, hp⟩ := List.mem_filterMap.1 hl
    obtain ⟨name, -, rfl⟩ := Option.map_eq_some_iff.1 hp
    simpa [memberLine] using hn

/-- Names and types have no surrogates, so those of a declaration are of the indentation. -/
theorem surrogate_mem_of_mem_emit {now : Timestamp} {log : Log}
    (hn : .surrogate n ∈ (emit o now log c).1) : .surrogate n ∈ o.indentation := by
  rw [emit_fst] at hn
  rcases Text.mem_of_mem_join hn with hn | ⟨l, hl, hn⟩
  · exact absurd hn Text.surrogate_notMem_raw
  rcases List.mem_append.1 hl with hl | hl
  · rcases List.mem_append.1 hl with hl | hl
    · obtain ⟨t, -, rfl⟩ := List.mem_map.1 hl
      exact absurd hn Text.surrogate_notMem_raw
    · exact surrogate_mem_of_mem_bodyLines hl hn
  · obtain rfl := List.mem_singleton.1 hl
    exact absurd hn Text.surrogate_notMem_raw

end Surrogates

end DtoInterfaces.Interface
