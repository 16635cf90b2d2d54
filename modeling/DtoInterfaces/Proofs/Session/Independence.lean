import DtoInterfaces.Proofs.Session.Batch

namespace DtoInterfaces.Session

open Interface

/-- What an action does apart from printing: its result, what it leaves, what it reports, and the
clock as it shows the time from then on. -/
structure Effect (α : Type) where
  result : Except Failure α
  disk : Disk
  clock : Clock
  reports : List Diagnostic

/-- The session after the action, when `held` was the collector before it. -/
def Effect.session {α : Type} (e : Effect α) (held : Collector) : Session :=
  ⟨e.disk, held.reportAll e.reports, e.clock⟩

/-- An action with one effect in all sessions, verbose or not and whatever the collector holds. -/
def IsUniform {α : Type} (action : Bool → Collector → Outcome α) : Prop :=
  ∃ e : Effect α, ∀ verbose held,
    (action verbose held).result = e.result ∧ (action verbose held).session = e.session held

theorem IsUniform.map {α β : Type} {action : Bool → Collector → Outcome α} (h : IsUniform action)
    (f : α → β) : IsUniform fun verbose held => (action verbose held).map f := by
  obtain ⟨e, he⟩ := h
  refine ⟨⟨e.result.map f, e.disk, e.clock, e.reports⟩, fun verbose held => ?_⟩
  obtain ⟨hresult, hsession⟩ := he verbose held
  exact ⟨congrArg (Except.map f) hresult, hsession⟩

section Actions

variable (s : Setup) (d : Disk) (clock : Clock)

end Actions

end DtoInterfaces.Session
