import DtoInterfaces.Config.File
import DtoInterfaces.Proofs.Text.Raw

namespace DtoInterfaces

namespace Json

/-- The value of a field, if there is one that is not null. What is no object has no fields. -/
def get? (j : Json) (name : RawText) : Option Json :=
  match j with
  | .object fields => field? fields name
  | _ => none

theorem text?_eq_some_iff {item : Json} {t : RawText} : item.text? = some t ↔ item = .text t := by
  cases item <;> simp [text?]

theorem mapM_text?_eq_some_iff {items : List Json} {ts : List RawText} :
    items.mapM text? = some ts ↔ items = ts.map .text := by
  induction items generalizing ts with
  | nil => cases ts <;> simp
  | cons item items ih =>
    simp only [List.mapM_cons, Option.bind_eq_bind, Option.bind_eq_some_iff, Option.pure_def,
      Option.some_inj, text?_eq_some_iff, ih]
    constructor
    · rintro ⟨t, rfl, ts, rfl, rfl⟩
      rfl
    · intro h
      obtain ⟨t, ts, rfl, rfl, rfl⟩ := List.map_eq_cons_iff.1 h.symm
      exact ⟨t, rfl, ts, rfl, rfl⟩

/-- The texts of an array that holds nothing else. -/
theorem texts?_eq_some_iff {j : Json} {ts : List RawText} :
    (j.array?.bind fun items => items.mapM text?) = some ts ↔ j = .array (ts.map .text) := by
  cases j with
  | array items => simp [array?, mapM_text?_eq_some_iff]
  | _ => simp [array?]

theorem bool?_eq_some_iff {j : Json} {b : Bool} : j.bool? = some b ↔ j = .bool b := by
  cases j <;> simp [bool?]

end Json

namespace Naming

theorem ofWord?_eq_some_iff {w : RawText} {n : Naming} : ofWord? w = some n ↔ w = n.word.raw := by
  refine ⟨fun h => ?_, fun h => h ▸ ofWord?_word n⟩
  exact (eq_of_beq (List.find?_some h :)).symm

theorem word_raw_injective : Function.Injective fun n : Naming => n.word.raw := by
  intro n m h
  have hn := ofWord?_word n
  rw [show n.word.raw = m.word.raw from h, ofWord?_word] at hn
  exact (Option.some.inj hn).symm

end Naming

namespace Config

open Json EmissionOptions

/-- The value of an option, where options are given at all. -/
def option? (j : Json) (name : Text) : Option Json :=
  (j.get? "options").bind fun o => o.get? name.raw

inductive Requirement where
  | object
  | input
  | inputTexts
  | inputNonempty
  | output
  | outputText
  | optionsObject
  | optionText (name : Text)
  | optionBool (name : Text)
  | optionNaming (name : Text)
  deriving DecidableEq, Repr

namespace Requirement

/-- The requirements in the order in which they are checked. -/
def all : List Requirement :=
  [.object, .input, .inputTexts, .inputNonempty, .output, .outputText, .optionsObject,
    .optionText "indentation", .optionBool "addTimestamp", .optionBool "exportInterfaces",
    .optionNaming "propertyNamingConvention"]

def Met (j : Json) : Requirement → Prop
  | .object => ∃ fields, j = .object fields
  | .input => j.get? "input" ≠ none
  | .inputTexts => ∃ ts : List RawText, j.get? "input" = some (.array (ts.map .text))
  | .inputNonempty => j.get? "input" ≠ some (.array [])
  | .output => ∃ v, j.get? "output" = some v ∧ v.isVoid = false
  | .outputText => ∃ t, j.get? "output" = some (.text t)
  | .optionsObject => j.get? "options" = none ∨ ∃ fields, j.get? "options" = some (.object fields)
  | .optionText name => option? j name = none ∨ ∃ t, option? j name = some (.text t)
  | .optionBool name => option? j name = none ∨ ∃ b, option? j name = some (.bool b)
  | .optionNaming name =>
    option? j name = none ∨ ∃ n : Naming, option? j name = some (.text n.word.raw)

/-- The fault of a value that meets the earlier requirements and not this one. -/
def fault : Requirement → ConfigFault
  | .object => .notObject
  | .input => .inputMissing
  | .inputTexts => .inputNotTexts
  | .inputNonempty => .inputEmpty
  | .output => .outputMissing
  | .outputText => .outputNotText
  | .optionsObject => .optionsNotObject
  | .optionText name => .option (.notText name)
  | .optionBool name => .option (.notBoolean name)
  | .optionNaming name => .option (.notNaming name)

/-- What is said of a value that does not meet the requirement. -/
def message : Requirement → Text
  | .object => "Config must be a JSON object"
  | .input => "Config must have \"input\" field"
  | .inputTexts => "\"input\" must be an array of glob patterns"
  | .inputNonempty => "\"input\" array cannot be empty"
  | .output => "Config must have \"output\" field"
  | .outputText => "\"output\" must be a string"
  | .optionsObject => "\"options\" must be an object"
  | .optionText name => "\"options." ++ name ++ "\" must be a string"
  | .optionBool name => "\"options." ++ name ++ "\" must be a boolean"
  | .optionNaming name =>
    "\"options." ++ name ++ "\" must be one of: preserve, camelCase, PascalCase"

theorem message_fault (r : Requirement) : r.fault.message = r.message.raw := by
  cases r with
  | optionNaming name => exact congrArg Text.raw (List.append_assoc _ _ _)
  | _ => rfl

end Requirement

/-- `a` is what a value writes down, or the default when there is none. -/
def Chosen {α : Type} (found : Option Json) (write : α → Json) (default a : α) : Prop :=
  found = none ∧ a = default ∨ found = some (write a)

theorem Chosen.exists_iff {α : Type} {found : Option Json} {write : α → Json} {default : α} :
    (∃ a, Chosen found write default a) ↔ found = none ∨ ∃ a, found = some (write a) := by
  simp [Chosen, exists_or]

/-- The options that a value describes. -/
structure DescribesOptions (j : Json) (o : EmissionOptions) : Prop where
  indentation : Chosen (option? j "indentation") .text "  " o.indentation
  stamped : Chosen (option? j "addTimestamp") .bool true o.stamped
  exported : Chosen (option? j "exportInterfaces") .bool true o.exported
  naming : Chosen (option? j "propertyNamingConvention") (fun n => .text n.word.raw) Naming.preserve
    o.naming

/-- The configuration that a value describes. -/
structure Describes (j : Json) (c : Config) : Prop where
  object : ∃ fields, j = .object fields
  input : j.get? "input" = some (.array (c.patterns.map .text))
  patterns_ne_nil : c.patterns ≠ []
  output : j.get? "output" = some (.text c.output)
  output_ne_nil : c.output ≠ []
  options : j.get? "options" = none ∨ ∃ fields, j.get? "options" = some (.object fields)
  chosen : DescribesOptions j c.options

/-- What comes of checking requirements in this order: a value with `P` if they are all met, or else
the fault of the first one that is not. -/
inductive Checked {α : Type} (j : Json) (P : α → Prop) :
    List Requirement → Except ConfigFault α → Prop
  | passes {rs : List Requirement} {a : α} (ha : P a) (hrs : ∀ r ∈ rs, r.Met j) :
      Checked j P rs (.ok a)
  | fails (before : List Requirement) {r : Requirement} (after : List Requirement)
      (hbefore : ∀ q ∈ before, q.Met j) (hr : ¬ r.Met j) :
      Checked j P (before ++ r :: after) (.error r.fault)

theorem mapError_bind {ε ε' α β : Type} (x : Except ε α) (f : α → Except ε β) (g : ε → ε') :
    (x >>= f).mapError g = x.mapError g >>= fun a => (f a).mapError g := by
  cases x <;> rfl

namespace Checked

variable {α β : Type} {j : Json} {P : α → Prop} {Q : β → Prop} {rs rs' : List Requirement}
  {x : Except ConfigFault α}

theorem bind {f : α → Except ConfigFault β} (h : Checked j P rs x)
    (hf : ∀ a, P a → Checked j Q rs' (f a)) : Checked j Q (rs ++ rs') (x >>= f) := by
  cases h with
  | @passes _ a ha hrs =>
    change Checked j Q (rs ++ rs') (f a)
    generalize f a = y, hf a ha = hy
    cases hy with
    | passes hb hrs' =>
      refine .passes hb fun r hr => ?_
      exact (List.mem_append.1 hr).elim (hrs r) (hrs' r)
    | fails before after hbefore hr =>
      rw [← List.append_assoc]
      refine .fails _ _ (fun q hq => ?_) hr
      exact (List.mem_append.1 hq).elim (hrs q) (hbefore q)
  | fails before after hbefore hr =>
    rw [List.append_assoc, List.cons_append]
    exact .fails _ _ hbefore hr

theorem cons {r : Requirement} (hr : r.Met j) (h : Checked j P rs x) : Checked j P (r :: rs) x := by
  cases h with
  | passes ha hrs => exact .passes ha (List.forall_mem_cons.2 ⟨hr, hrs⟩)
  | fails before after hbefore hq =>
    exact .fails (r :: before) after (List.forall_mem_cons.2 ⟨hr, hbefore⟩) hq

end Checked

section Options

variable {j : Json} {options : List (RawText × Json)}

/-- A check of one option: it reads what some `b` writes down, as the value that `b` has. -/
theorem checked_checkField {α β : Type} {read : Json → Option α} {write : β → Json} {value : β → α}
    {r : Requirement} {fault : Text → OptionFault} {name : Text}
    (hname : option? j name = field? options name.raw)
    (hread : ∀ v a, read v = some a ↔ ∃ b, v = write b ∧ value b = a)
    (hmet : r.Met j ↔ option? j name = none ∨ ∃ b, option? j name = some (write b))
    (hfault : r.fault = .option (fault name)) :
    Checked j (fun found => ∃ b : Option β, option? j name = b.map write ∧ b.map value = found) [r]
      ((checkField options name read fault).mapError .option) := by
  rw [checkField, ← hname]
  cases h : option? j name with
  | none =>
    exact .passes ⟨none, rfl, rfl⟩ (List.forall_mem_singleton.2 (hmet.2 (.inl h)))
  | some v =>
    cases hv : read v with
    | some a =>
      obtain ⟨b, rfl, rfl⟩ := (hread v a).1 hv
      simp only [hv]
      exact .passes ⟨some b, rfl, rfl⟩ (List.forall_mem_singleton.2 (hmet.2 (.inr ⟨b, h⟩)))
    | none =>
      simp only [hv]
      change Checked j _ [r] (.error (.option (fault name)))
      rw [← hfault]
      refine .fails [] [] (List.forall_mem_nil _) fun hr => ?_
      obtain hn | ⟨b, hb⟩ := hmet.1 hr
      · cases h.symm.trans hn
      · cases h.symm.trans hb
        cases hv.symm.trans ((hread _ _).2 ⟨b, rfl, rfl⟩)

theorem namingWord?_eq_some_iff {v : Json} {w : RawText} :
    namingWord? v = some w ↔ ∃ n : Naming, v = .text n.word.raw ∧ n.word.raw = w := by
  rw [namingWord?, Option.filter_eq_some_iff, text?_eq_some_iff, Option.isSome_iff_exists]
  constructor
  · rintro ⟨rfl, n, hn⟩
    exact ⟨n, by rw [Naming.ofWord?_eq_some_iff.1 hn], (Naming.ofWord?_eq_some_iff.1 hn).symm⟩
  · rintro ⟨n, rfl, rfl⟩
    exact ⟨rfl, n, n.ofWord?_word⟩

/-- The options that a value gives, each as it is written down. -/
structure Gives (j : Json) (g : Given) : Prop where
  indentation : option? j "indentation" = g.indentation.map .text
  stamped : option? j "addTimestamp" = g.stamped.map .bool
  exported : option? j "exportInterfaces" = g.exported.map .bool
  naming : ∃ n : Option Naming,
    option? j "propertyNamingConvention" = n.map (fun n => .text n.word.raw) ∧
      n.map (fun n => n.word.raw) = g.naming

theorem checked_checkFields (hj : ∀ name, option? j name = field? options name.raw) :
    Checked j (Gives j)
      [.optionText "indentation", .optionBool "addTimestamp", .optionBool "exportInterfaces",
        .optionNaming "propertyNamingConvention"]
      ((checkFields options).mapError .option) := by
  have htext (v : Json) (t : RawText) : v.text? = some t ↔ ∃ u, v = .text u ∧ id u = t := by
    simp [text?_eq_some_iff]
  have hbool (v : Json) (b : Bool) : v.bool? = some b ↔ ∃ c, v = .bool c ∧ id c = b := by
    simp [bool?_eq_some_iff]
  rw [checkFields]
  simp only [mapError_bind]
  refine (checked_checkField (hj _) htext .rfl rfl).bind fun indentation hindentation => ?_
  refine (checked_checkField (hj _) hbool .rfl rfl).bind fun stamped hstamped => ?_
  refine (checked_checkField (hj _) hbool .rfl rfl).bind fun exported hexported => ?_
  refine (checked_checkField (hj _) (fun _ _ => namingWord?_eq_some_iff) .rfl rfl).bind
    fun naming hnaming => ?_
  simp only [Option.map_id, id_eq, exists_eq_right] at hindentation hstamped hexported
  exact .passes ⟨hindentation, hstamped, hexported, hnaming⟩ (List.forall_mem_nil _)

theorem chosen_iff_getD {α : Type} {found : Option Json} {write : α → Json}
    (hwrite : Function.Injective write) {x : Option α} (h : found = x.map write) {default a : α} :
    Chosen found write default a ↔ a = x.getD default := by
  subst h
  cases x with
  | none => simp [Chosen]
  | some b => simp [Chosen, hwrite.eq_iff, eq_comm]

/-- Options that were checked can be built. -/
theorem Gives.exists_ofGiven_eq_ok {g : Given} (h : Gives j g) :
    ∃ o, ofGiven g = .ok o ∧ ∀ o', DescribesOptions j o' ↔ o' = o := by
  obtain ⟨n, hn, hword⟩ := h.naming
  have hnaming : (g.naming.getD Naming.preserve.word.raw) = (n.getD .preserve).word.raw := by
    rw [← hword]
    cases n <;> rfl
  refine ⟨⟨g.indentation.getD "  ", g.exported.getD true, g.stamped.getD true, n.getD .preserve⟩,
    ?_, fun o => ?_⟩
  · simp only [ofGiven, hnaming, Naming.ofWord?_word]
  · have hnaming' : Function.Injective fun n : Naming => Json.text n.word.raw :=
      fun _ _ h => Naming.word_raw_injective (Json.text.inj h)
    have htext : Function.Injective Json.text := fun _ _ => Json.text.inj
    have hbool : Function.Injective Json.bool := fun _ _ => Json.bool.inj
    constructor
    · rintro ⟨hi, hs, he, hn'⟩
      rw [chosen_iff_getD htext h.indentation] at hi
      rw [chosen_iff_getD hbool h.stamped] at hs
      rw [chosen_iff_getD hbool h.exported] at he
      rw [chosen_iff_getD hnaming' hn] at hn'
      rw [← hi, ← hs, ← he, ← hn']
    · rintro rfl
      exact ⟨(chosen_iff_getD htext h.indentation).2 rfl, (chosen_iff_getD hbool h.stamped).2 rfl,
        (chosen_iff_getD hbool h.exported).2 rfl, (chosen_iff_getD hnaming' hn).2 rfl⟩

end Options

section Readers

variable (fields : List (RawText × Json))

theorem checked_readPatterns : Checked (.object fields)
    (fun ps : List RawText => field? fields "input" = some (.array (ps.map .text)) ∧ ps ≠ [])
    [.input, .inputTexts, .inputNonempty] (readPatterns fields) := by
  rw [readPatterns]
  cases h : field? fields "input" with
  | none => exact .fails [] _ (List.forall_mem_nil _) fun hm => hm h
  | some input =>
    have hinput : Requirement.input.Met (.object fields) :=
      fun hm => Option.some_ne_none input (h.symm.trans hm)
    dsimp only
    cases hts : input.array?.bind fun items => items.mapM text? with
    | none =>
      refine .fails [.input] _ (by simpa using hinput) ?_
      rintro ⟨ts, hm⟩
      obtain rfl := Option.some.inj (h.symm.trans hm)
      rw [texts?_eq_some_iff.2 rfl] at hts
      cases hts
    | some ts =>
      obtain rfl := texts?_eq_some_iff.1 hts
      have htexts : Requirement.inputTexts.Met (.object fields) := ⟨ts, h⟩
      cases ts with
      | nil => exact .fails [.input, .inputTexts] _ (by simpa using ⟨hinput, htexts⟩) fun hm => hm h
      | cons t ts =>
        have hnonempty : Requirement.inputNonempty.Met (.object fields) := by
          intro hm
          cases h.symm.trans hm
        exact .passes ⟨rfl, List.cons_ne_nil t ts⟩ (by simpa using ⟨hinput, htexts, hnonempty⟩)

theorem checked_readOutput : Checked (.object fields)
    (fun t : RawText => field? fields "output" = some (.text t) ∧ t ≠ [])
    [.output, .outputText] (readOutput fields) := by
  rw [readOutput]
  cases h : (field? fields "output").filter fun output => !output.isVoid with
  | none =>
    refine .fails [] _ (List.forall_mem_nil _) ?_
    rintro ⟨v, hv, hvoid⟩
    rw [show field? fields "output" = some v from hv, Option.filter_some, hvoid] at h
    cases h
  | some v =>
    obtain ⟨hv, hvoid⟩ := Option.filter_eq_some_iff.1 h
    have houtput : Requirement.output.Met (.object fields) := ⟨v, hv, by simpa using hvoid⟩
    cases v with
    | text t =>
      have htext : Requirement.outputText.Met (.object fields) := ⟨t, hv⟩
      exact .passes ⟨hv, by simpa [isVoid] using hvoid⟩ (by simpa using ⟨houtput, htext⟩)
    | _ =>
      refine .fails [.output] _ (by simpa using houtput) ?_
      rintro ⟨t, ht⟩
      cases hv.symm.trans ht

/-- Options that are left out are read as an object without fields. -/
def ReadsOptions (j : Json) (options : List (RawText × Json)) : Prop :=
  j.get? "options" = none ∧ options = [] ∨ j.get? "options" = some (.object options)

theorem ReadsOptions.option?_eq {j : Json} {options : List (RawText × Json)}
    (h : ReadsOptions j options) (name : Text) : option? j name = field? options name.raw := by
  rw [option?]
  rcases h with ⟨h, rfl⟩ | h
  all_goals
    rw [h]
    rfl

theorem checked_readOptions : Checked (.object fields) (ReadsOptions (.object fields))
    [.optionsObject] (readOptions fields) := by
  rw [readOptions]
  cases h : field? fields "options" with
  | none =>
    have hmet : Requirement.optionsObject.Met (.object fields) := .inl h
    exact .passes (.inl ⟨h, rfl⟩) (List.forall_mem_singleton.2 hmet)
  | some v =>
    cases v with
    | object options =>
      have hmet : Requirement.optionsObject.Met (.object fields) := .inr ⟨options, h⟩
      exact .passes (.inr h) (List.forall_mem_singleton.2 hmet)
    | _ =>
      refine .fails [] _ (List.forall_mem_nil _) ?_
      rintro (hm | ⟨options, hm⟩) <;> cases h.symm.trans hm

end Readers

/-- The draft that a value describes. -/
structure Drafts (j : Json) (d : Draft) : Prop where
  object : ∃ fields, j = .object fields
  input : j.get? "input" = some (.array (d.patterns.map .text))
  patterns_ne_nil : d.patterns ≠ []
  output : j.get? "output" = some (.text d.output)
  output_ne_nil : d.output ≠ []
  options : Requirement.optionsObject.Met j
  given : Gives j d.options

theorem checked_ofJson (j : Json) : Checked j (Drafts j) Requirement.all (Draft.ofJson j) := by
  cases j with
  | object fields =>
    -- the groups of requirements that are checked together
    have hall : Requirement.all = .object :: [.input, .inputTexts, .inputNonempty].append
        ([.output, .outputText].append ([.optionsObject].append
          ([.optionText "indentation", .optionBool "addTimestamp", .optionBool "exportInterfaces",
            .optionNaming "propertyNamingConvention"].append []))) := rfl
    rw [hall, Draft.ofJson]
    refine .cons ⟨fields, rfl⟩ ?_
    refine (checked_readPatterns fields).bind fun patterns hpatterns => ?_
    refine (checked_readOutput fields).bind fun output houtput => ?_
    refine (checked_readOptions fields).bind fun options hoptions => ?_
    refine (checked_checkFields hoptions.option?_eq).bind fun given hgiven => ?_
    refine .passes ?_ (List.forall_mem_nil _)
    exact ⟨⟨fields, rfl⟩, hpatterns.1, hpatterns.2, houtput.1, houtput.2,
      hoptions.imp And.left fun h => ⟨options, h⟩, hgiven⟩
  | _ =>
    refine .fails [] _ (List.forall_mem_nil _) ?_
    rintro ⟨fields, hm⟩
    cases hm

/-- A value that describes a configuration meets every requirement. -/
theorem Describes.met {j : Json} {c : Config} (h : Describes j c) :
    ∀ r ∈ Requirement.all, r.Met j := by
  have hnonempty : Requirement.inputNonempty.Met j := by
    intro hm
    have hnil := h.input.symm.trans hm
    simp [h.patterns_ne_nil] at hnil
  have hvoid : (Json.text c.output).isVoid = false := by simp [isVoid, h.output_ne_nil]
  simp only [Requirement.all, List.forall_mem_cons]
  refine ⟨h.object, fun hm => Option.some_ne_none _ (h.input.symm.trans hm),
    ⟨c.patterns, h.input⟩, hnonempty, ⟨_, h.output, hvoid⟩, ⟨_, h.output⟩, h.options, ?_⟩
  refine ⟨Chosen.exists_iff.1 ⟨_, h.chosen.indentation⟩, Chosen.exists_iff.1 ⟨_, h.chosen.stamped⟩,
    Chosen.exists_iff.1 ⟨_, h.chosen.exported⟩, Chosen.exists_iff.1 ⟨_, h.chosen.naming⟩,
    List.forall_mem_nil _⟩

theorem Drafts.describes_iff {j : Json} {d : Draft} (h : Drafts j d) {c : Config} :
    Describes j c ↔
      d.patterns = c.patterns ∧ d.output = c.output ∧ DescribesOptions j c.options := by
  constructor
  · intro hc
    have htexts := h.input.symm.trans hc.input
    rw [Option.some_inj, Json.array.injEq] at htexts
    have houtput := h.output.symm.trans hc.output
    rw [Option.some_inj, Json.text.injEq] at houtput
    exact ⟨(List.map_inj_right fun _ _ => Json.text.inj).1 htexts, houtput, hc.chosen⟩
  · rintro ⟨hpatterns, houtput, hchosen⟩
    exact ⟨h.object, hpatterns ▸ h.input, hpatterns ▸ h.patterns_ne_nil, houtput ▸ h.output,
      houtput ▸ h.output_ne_nil, h.options, hchosen⟩

/-- A draft becomes the one configuration that the value describes. -/
theorem Drafts.exists_ofJson_eq_ok {j : Json} {d : Draft} (h : Drafts j d)
    (hd : Draft.ofJson j = .ok d) : ∃ c, ofJson j = .ok c ∧ ∀ c', Describes j c' ↔ c' = c := by
  obtain ⟨o, ho, hunique⟩ := h.given.exists_ofGiven_eq_ok
  refine ⟨⟨d.patterns, d.output, o⟩, ?_, fun c => ?_⟩
  · rw [ofJson, hd]
    simp only [Except.mapError, bind, Except.bind, ho]
    rfl
  · rw [h.describes_iff, hunique]
    cases c
    simp [eq_comm]

/-- What comes of a value: the configuration that it describes, or the fault of the first
requirement that it does not meet. -/
theorem ofJson_cases (j : Json) :
    ((∃ c, Describes j c) ∧ ∀ c, ofJson j = .ok c ↔ Describes j c) ∨
      ∃ before r after, ofJson j = .error (.config (Requirement.fault r)) ∧
        Requirement.all = before ++ r :: after ∧ (∀ q ∈ before, q.Met j) ∧ ¬ r.Met j := by
  have h := checked_ofJson j
  generalize hx : Draft.ofJson j = x, hrs : Requirement.all = rs at h
  cases h with
  | @passes _ d hd hmet =>
    obtain ⟨c, hc, hunique⟩ := hd.exists_ofJson_eq_ok hx
    refine .inl ⟨⟨c, (hunique c).2 rfl⟩, fun c' => ?_⟩
    rw [hc, hunique, Except.ok.injEq, eq_comm]
  | fails before after hbefore hr =>
    refine .inr ⟨before, _, after, ?_, rfl, hbefore, hr⟩
    rw [ofJson, hx]
    rfl

theorem ofJson_eq_ok_iff {j : Json} {c : Config} : ofJson j = .ok c ↔ Describes j c := by
  rcases ofJson_cases j with ⟨-, h⟩ | ⟨before, r, after, herror, hall, -, hr⟩
  · exact h c
  · rw [herror]
    exact ⟨nofun, fun hc => (hr (hc.met r (hall ▸ List.mem_append_cons_self))).elim⟩

theorem exists_ofJson_eq_ok_iff {j : Json} :
    (∃ c, ofJson j = .ok c) ↔ ∀ r ∈ Requirement.all, r.Met j := by
  refine ⟨fun ⟨c, hc⟩ => (ofJson_eq_ok_iff.1 hc).met, fun hmet => ?_⟩
  rcases ofJson_cases j with ⟨⟨c, hc⟩, h⟩ | ⟨before, r, after, -, hall, -, hr⟩
  · exact ⟨c, (h c).2 hc⟩
  · exact (hr (hmet r (hall ▸ List.mem_append_cons_self))).elim

/-- Agreement on all that is looked at. A field that is null counts as absent, and fields of other
names count for nothing. -/
structure Agree (j j' : Json) : Prop where
  object : (∃ fields, j = .object fields) ↔ ∃ fields, j' = .object fields
  input : j.get? "input" = j'.get? "input"
  output : j.get? "output" = j'.get? "output"
  options : Requirement.optionsObject.Met j ↔ Requirement.optionsObject.Met j'
  indentation : option? j "indentation" = option? j' "indentation"
  stamped : option? j "addTimestamp" = option? j' "addTimestamp"
  exported : option? j "exportInterfaces" = option? j' "exportInterfaces"
  naming : option? j "propertyNamingConvention" = option? j' "propertyNamingConvention"

namespace Agree

variable {j j' : Json}

theorem symm (h : Agree j j') : Agree j' j :=
  ⟨h.object.symm, h.input.symm, h.output.symm, h.options.symm, h.indentation.symm, h.stamped.symm,
    h.exported.symm, h.naming.symm⟩

theorem met (h : Agree j j') : ∀ r ∈ Requirement.all, r.Met j → r.Met j' := by
  simp only [Requirement.all, List.forall_mem_cons]
  refine ⟨h.object.1, ?_, ?_, ?_, ?_, ?_, h.options.1, ?_, ?_, ?_, ?_, List.forall_mem_nil _⟩
  all_goals
    simp only [Requirement.Met, h.input, h.output, h.indentation, h.stamped, h.exported, h.naming,
      imp_self]

theorem describes (h : Agree j j') {c : Config} (hc : Describes j c) : Describes j' c :=
  ⟨h.object.1 hc.object, h.input ▸ hc.input, hc.patterns_ne_nil, h.output ▸ hc.output,
    hc.output_ne_nil, h.options.1 hc.options, h.indentation ▸ hc.chosen.indentation,
    h.stamped ▸ hc.chosen.stamped, h.exported ▸ hc.chosen.exported, h.naming ▸ hc.chosen.naming⟩

end Agree

/-- No two requirements are the first one that is not met. -/
theorem unmet_unique {j : Json} {before after before' after' : List Requirement}
    {r r' : Requirement} (h : before ++ r :: after = before' ++ r' :: after')
    (hbefore : ∀ q ∈ before, q.Met j) (hr : ¬ r.Met j) (hbefore' : ∀ q ∈ before', q.Met j)
    (hr' : ¬ r'.Met j) : r = r' := by
  classical
  have hfind : (before ++ r :: after).find? (fun q => !decide (q.Met j)) = some r :=
    List.find?_eq_some_iff_append.2 ⟨by simpa using hr, before, after, rfl, by simpa using hbefore⟩
  have hfind' : (before ++ r :: after).find? (fun q => !decide (q.Met j)) = some r' :=
    List.find?_eq_some_iff_append.2
      ⟨by simpa using hr', before', after', h, by simpa using hbefore'⟩
  exact Option.some.inj (hfind.symm.trans hfind')

/-- Fields that are not looked at have no influence. -/
theorem Agree.ofJson_eq {j j' : Json} (h : Agree j j') : ofJson j' = ofJson j := by
  rcases ofJson_cases j with ⟨⟨c, hc⟩, -⟩ | ⟨before, r, after, herror, hall, hbefore, hr⟩
  · rw [ofJson_eq_ok_iff.2 hc, ofJson_eq_ok_iff.2 (h.describes hc)]
  rcases ofJson_cases j' with ⟨⟨c, hc⟩, -⟩ | ⟨before', r', after', herror', hall', hbefore', hr'⟩
  · rw [ofJson_eq_ok_iff.2 hc, ofJson_eq_ok_iff.2 (h.symm.describes hc)]
  -- Both fail, and the first requirement that is not met is the same.
  have hearlier (q : Requirement) (hq : q ∈ before') : q.Met j :=
    h.symm.met q (hall' ▸ List.mem_append_left _ hq) (hbefore' q hq)
  have hunmet : ¬ r'.Met j := fun hm => hr' (h.met r' (hall' ▸ List.mem_append_cons_self) hm)
  obtain rfl := unmet_unique (hall.symm.trans hall') hbefore hr hearlier hunmet
  rw [herror, herror']

/-- A value is accepted exactly if it meets all requirements, and then it gives the configuration
that it describes: its input, its output, and the options that it gives, with the defaults for the
others. Any other value gives the fault of the first requirement that it does not meet, with its
message, and fails in no other way. Values that agree on all that is looked at give the same. -/
theorem ofJson_describes_or_first_unmet (j : Json) :
    (∀ c, ofJson j = .ok c ↔ Describes j c) ∧
      ((∃ c, ofJson j = .ok c) ↔ ∀ r ∈ Requirement.all, r.Met j) ∧
      ((∃ c, ofJson j = .ok c) ∨ ∃ before r after,
        ofJson j = .error (.config r.fault) ∧ r.fault.message = r.message.raw ∧
          Requirement.all = before ++ r :: after ∧ (∀ q ∈ before, q.Met j) ∧ ¬ r.Met j) ∧
      ∀ j', Agree j j' → ofJson j' = ofJson j := by
  refine ⟨fun c => ofJson_eq_ok_iff, exists_ofJson_eq_ok_iff, ?_, fun j' h => h.ofJson_eq⟩
  rcases ofJson_cases j with ⟨⟨c, hc⟩, h⟩ | ⟨before, r, after, herror, h⟩
  · exact .inl ⟨c, (h c).2 hc⟩
  · exact .inr ⟨before, r, after, herror, r.message_fault, h⟩

/-- A value that gives one option. -/
def plainValue : Json :=
  .object [("input", .array [.text "*.cs"]), ("output", .text "a.ts"),
    ("options", .object [("addTimestamp", .bool false)])]

/-- A value with null and unknown fields that agrees with the plain one. -/
def strayValue : Json :=
  .object [("note", .null), ("options", .object [("indentation", .null),
    ("addTimestamp", .bool false), ("tabs", .bool true)]), ("output", .number (.integer 3)),
    ("output", .text "a.ts"), ("input", .array [.text "*.cs"])]

/-- A value with two options that are of no use. -/
def faultyValue : Json :=
  .object [("input", .array [.text "*.cs"]), ("output", .text "a.ts"),
    ("options", .object [("propertyNamingConvention", .text "snake"),
      ("addTimestamp", .number (.integer 0))])]

theorem ofJson_describes_or_first_unmet_values :
    (Agree plainValue strayValue ∧ ofJson strayValue = ofJson plainValue) ∧
      Describes plainValue ⟨["*.cs"], "a.ts", { stamped := false }⟩ ∧
      (¬ ∀ r ∈ Requirement.all, r.Met faultyValue) ∧
      (ofJson faultyValue).mapError Failure.message =
        .error "\"options.addTimestamp\" must be a boolean" := by
  have hagree : Agree plainValue strayValue := by
    refine ⟨iff_of_true ⟨_, rfl⟩ ⟨_, rfl⟩, ?_, ?_, iff_of_true (.inr ⟨_, rfl⟩) (.inr ⟨_, rfl⟩),
      ?_, ?_, ?_, ?_⟩
    all_goals
      simp [plainValue, strayValue, option?, get?, field?, List.lookup_cons, Option.filter_some,
        isNull]
  have hok : ofJson plainValue = .ok ⟨["*.cs"], "a.ts", { stamped := false }⟩ := rfl
  have herror : ofJson faultyValue = .error (.config (.option (.notBoolean "addTimestamp"))) := rfl
  obtain ⟨hplain, -, -, hstray⟩ := ofJson_describes_or_first_unmet plainValue
  obtain ⟨-, hfaulty, -, -⟩ := ofJson_describes_or_first_unmet faultyValue
  have hunmet : ¬ ∀ r ∈ Requirement.all, r.Met faultyValue := by
    rw [← hfaulty, herror]
    rintro ⟨c, ⟨⟩⟩
  refine ⟨⟨hagree, hstray strayValue hagree⟩, (hplain _).1 hok, hunmet, ?_⟩
  rw [herror]
  rfl

end Config

end DtoInterfaces
