import DtoInterfaces.Proofs.Text.Lines
import DtoInterfaces.Proofs.TypeExpr.Nesting

namespace DtoInterfaces.TypeExpr

open Text

/-- An argument closes what it opens and has its commas inside brackets. -/
structure IsArgument (t : Text) : Prop where
  depth_eq : depth t = 0
  avoids : Avoids ',' 0 t

instance (t : Text) : Decidable (IsArgument t) :=
  decidable_of_iff (depth t = 0 ∧ Avoids ',' 0 t) ⟨fun h => ⟨h.1, h.2⟩, fun h => ⟨h.1, h.2⟩⟩

def withoutBlanks (t : Text) : Text := t.filter fun c => !isBlank c

theorem join_comma_cons (p : Text) {ps : List Text} (hps : ps ≠ []) :
    join "," (p :: ps) = p ++ ',' :: join "," ps := by
  rw [join_cons_of_ne_nil "," p hps, List.append_assoc]
  rfl

theorem join_comma_concat {ps : List Text} (hps : ps ≠ []) (p : Text) :
    join "," (ps ++ [p]) = join "," ps ++ ',' :: p := by
  rw [join_append "," hps (List.cons_ne_nil p []), List.append_assoc]
  rfl

theorem cutAt_join {ps : List Text} (hps : ps ≠ []) (h : ∀ p ∈ ps, IsArgument p) :
    cutAt 0 (join "," ps) = ps := by
  induction ps with
  | nil => exact absurd rfl hps
  | cons p ps ih =>
    obtain ⟨hp, hrest⟩ := List.forall_mem_cons.1 h
    by_cases hnil : ps = []
    · rw [hnil]
      exact cutAt_eq_singleton hp.avoids
    · rw [join_comma_cons p hnil, cutAt_comma hp.avoids hp.depth_eq, ih hnil hrest]

theorem join_cutAt (d : Int) (t : Text) : join "," (cutAt d t) = t := by
  generalize hps : cutAt d t = ps
  induction ps generalizing d t with
  | nil => exact absurd hps (cutAt_ne_nil d t)
  | cons p ps ih =>
    cases ps with
    | nil => exact (eq_of_cutAt_eq_singleton hps).symm
    | cons q ps =>
      obtain ⟨u, rfl, -, hu⟩ := exists_of_cutAt_eq_cons_cons hps
      rw [join_comma_cons p (List.cons_ne_nil q ps), ih 0 u hu]

/-- The last cut goes through a comma outside all brackets. -/
theorem depth_join_of_cutAt {d : Int} {t p : Text} {ps : List Text} (hps : ps ≠ [])
    (h : cutAt d t = ps ++ [p]) : d + depth (join "," ps) = 0 := by
  induction ps generalizing d t with
  | nil => exact absurd rfl hps
  | cons q ps ih =>
    by_cases hnil : ps = []
    · subst hnil
      obtain ⟨u, -, hd, -⟩ := exists_of_cutAt_eq_cons_cons h
      exact hd
    · have happend : ps ++ [p] ≠ [] := List.append_ne_nil_of_left_ne_nil hnil [p]
      obtain ⟨r, rest, hr⟩ := List.exists_cons_of_ne_nil happend
      rw [List.cons_append, hr] at h
      obtain ⟨u, -, hd, hu⟩ := exists_of_cutAt_eq_cons_cons h
      have hrest := ih hnil (hu.trans hr.symm)
      have hcomma : bracketStep ',' = 0 := by decide
      rw [join_comma_cons q hnil, depth_append, depth_cons]
      omega

theorem cutAt_append_comma {d : Int} {t : Text} (h : d + depth t = 0) :
    cutAt d (t ++ [',']) = cutAt d t ++ [[]] := by
  induction t generalizing d with
  | nil =>
    obtain rfl : d = 0 := by simpa using h
    rfl
  | cons c t ih =>
    rw [depth_cons] at h
    rw [List.cons_append, cutAt, cutAt]
    split
    · next hc =>
      rw [Bool.and_eq_true, beq_iff_eq, beq_iff_eq] at hc
      obtain ⟨rfl, rfl⟩ := hc
      have hcomma : bracketStep ',' = 0 := by decide
      rw [ih (by omega), List.cons_append]
    · rw [ih (by omega)]
      obtain ⟨p, ps, hp⟩ := List.exists_cons_of_ne_nil (cutAt_ne_nil (d + bracketStep c) t)
      rw [hp]
      rfl

theorem dropEmptyLast_append (ps : List Text) (p : Text) :
    dropEmptyLast (ps ++ [p]) = ps ++ if p = [] then [] else [p] := by
  induction ps with
  | nil => simp [dropEmptyLast]
  | cons q ps ih =>
    obtain ⟨r, rest, hr⟩ := List.exists_cons_of_ne_nil (List.append_ne_nil_of_right_ne_nil ps
      (List.cons_ne_nil p []))
    rw [hr] at ih
    rw [List.cons_append, hr, dropEmptyLast, ih, List.cons_append]

/-- What joining the pieces again gives: the whole text, unless it ends with a comma outside the
brackets. -/
theorem join_dropEmptyLast_cutAt {t : Text} (h : ∀ u, t = u ++ [','] → depth u ≠ 0) :
    join "," (dropEmptyLast (cutAt 0 t)) = t := by
  rcases eq_dropEmptyLast_or (cutAt 0 t) with hps | hps
  · rw [← hps, join_cutAt]
  · by_cases hnil : dropEmptyLast (cutAt 0 t) = []
    · rw [hnil, List.nil_append] at hps
      rw [hnil, eq_of_cutAt_eq_singleton hps]
      rfl
    · have hdepth := depth_join_of_cutAt hnil hps
      have ht := join_cutAt 0 t
      rw [hps, join_comma_concat hnil] at ht
      exact absurd ((zero_add _).symm.trans hdepth) (h _ ht.symm)

theorem withoutBlanks_append (s t : Text) :
    withoutBlanks (s ++ t) = withoutBlanks s ++ withoutBlanks t :=
  List.filter_append s t

theorem withoutBlanks_strip (t : Text) : withoutBlanks (strip t) = withoutBlanks t := by
  have hblank {b : Text} (hb : AllBlank b) : withoutBlanks b = [] :=
    List.filter_eq_nil_iff.2 fun c hc => by simp [hb c hc]
  obtain ⟨b, b', hb, hb', ht⟩ := exists_append_strip t
  conv_rhs => rw [ht]
  rw [withoutBlanks_append, withoutBlanks_append, hblank hb, hblank hb', List.nil_append,
    List.append_nil]

theorem withoutBlanks_join_strip (ps : List Text) :
    withoutBlanks (join "," (ps.map strip)) = withoutBlanks (join "," ps) := by
  induction ps with
  | nil => rfl
  | cons p ps ih =>
    by_cases hnil : ps = []
    · rw [hnil]
      exact withoutBlanks_strip p
    · have hcomma (q r : Text) : withoutBlanks (q ++ ',' :: r) =
          withoutBlanks q ++ ',' :: withoutBlanks r := withoutBlanks_append q (',' :: r)
      rw [List.map_cons, join_comma_cons p hnil, join_comma_cons _ (by simpa using hnil), hcomma,
        hcomma, withoutBlanks_strip, ih]

/-- Splitting finds the arguments that were joined with commas, without the blanks at their ends; an
empty last one is left out. The other way round, joining what any text was split into gives the text
back as far as it is not blank, without a comma that stands last in it and outside the brackets. -/
theorem splitArguments_join :
    (∀ (front : List Text) (last : Text), (∀ p ∈ front ++ [last], IsArgument p) →
      splitArguments (join "," (front ++ [last])) =
        front.map strip ++ if last = [] then [] else [strip last]) ∧
    (∀ t, (∀ u, t = u ++ [','] → depth u ≠ 0) →
      withoutBlanks (join "," (splitArguments t)) = withoutBlanks t) ∧
    ∀ u, depth u = 0 →
      withoutBlanks (join "," (splitArguments (u ++ [',']))) = withoutBlanks u := by
  refine ⟨fun front last h => ?_, fun t ht => ?_, fun u hu => ?_⟩
  · rw [splitArguments, cutAt_join (by simp) h, dropEmptyLast_append, List.map_append]
    split <;> rfl
  · rw [splitArguments, withoutBlanks_join_strip, join_dropEmptyLast_cutAt ht]
  · have hd : (0 : Int) + depth u = 0 := (zero_add _).trans hu
    rw [splitArguments, cutAt_append_comma hd, dropEmptyLast_append, if_pos rfl, List.append_nil,
      withoutBlanks_join_strip, join_cutAt]

/-- Blank and empty arguments, commas inside brackets that do not match or close before they open,
and a comma that stands last inside a bracket. -/
theorem splitArguments_join_unnested :
    (∀ p ∈ ([" Map<A, B]", "", ")A(\u2003", "  "] : List Text) ++ [[]], IsArgument p) ∧
      splitArguments " Map<A, B],,)A(\u2003,  ," = ["Map<A, B]", "", ")A(", ""] ∧
      (∀ u, ("A, (B," : Text) = u ++ [','] → depth u ≠ 0) ∧
      withoutBlanks (join "," (splitArguments "A, (B,")) = withoutBlanks "A, (B," ∧
      depth " A< ,>, " = 0 ∧
      withoutBlanks (join "," (splitArguments (" A< ,>, " ++ [',']))) =
        withoutBlanks " A< ,>, " := by
  obtain ⟨hjoin, htext, hcomma⟩ := splitArguments_join
  have hp : ∀ p ∈ ([" Map<A, B]", "", ")A(\u2003", "  "] : List Text) ++ [[]], IsArgument p := by
    decide
  have hu : ∀ u, ("A, (B," : Text) = u ++ [','] → depth u ≠ 0 := by
    intro u h
    have hu := congrArg List.dropLast h
    rw [List.dropLast_concat] at hu
    rw [← hu]
    decide
  exact ⟨hp, hjoin _ _ hp, hu, htext _ hu, by decide, hcomma _ (by decide)⟩

end DtoInterfaces.TypeExpr
