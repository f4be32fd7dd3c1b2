import GameTips.Conditions
import GameTips.Proofs.Lists

/-!
# What traced loops and readings give

Events do not bear on values: the value of a loop over a list (`mapM`, `anyM`, `allM`, `foldlM`) is
the plain loop over the values of its steps. The events of a loop are those of the steps it takes. A
search takes those up to the one that decides (`List.throughFirst`), and a filter takes each once
(`filterM_recorded`).

A traced reading has an *outcome*, the value or the error it ends with, and outcomes compose as plain
results do (`outcome_bind`); its events are those up to where it fails. What holds of the events of
all steps holds of the events of the whole (`Emits`).
-/

namespace GameTips

namespace Traced

universe u v

/-- What follows a traced value matters only at that value. -/
theorem bind_congr_value {α β : Type u} {x : Traced α} {f g : α → Traced β}
    (h : f x.value = g x.value) : x >>= f = x >>= g := by
  apply Traced.ext
  · rw [value_bind, value_bind, h]
  · rw [events_bind, events_bind, h]

variable {α : Type v} {β : Type u}

@[simp] theorem value_mapM (f : α → Traced β) (xs : List α) :
    (xs.mapM f).value = xs.map fun x => (f x).value := by
  induction xs with
  | nil => rfl
  | cons x xs ih => simp [List.mapM_cons, ih]

@[simp] theorem value_anyM (p : α → Traced Bool) (xs : List α) :
    (xs.anyM p).value = xs.any fun x => (p x).value := by
  induction xs with
  | nil => rfl
  | cons x xs ih =>
    rw [List.anyM, value_bind, List.any_cons]
    cases (p x).value
    · exact ih
    · rfl

@[simp] theorem value_allM (p : α → Traced Bool) (xs : List α) :
    (xs.allM p).value = xs.all fun x => (p x).value := by
  induction xs with
  | nil => rfl
  | cons x xs ih =>
    rw [List.allM, value_bind, List.all_cons]
    cases (p x).value
    · rfl
    · exact ih

@[simp] theorem value_foldlM (f : β → α → Traced β) (b : β) (xs : List α) :
    (xs.foldlM f b).value = xs.foldl (fun b x => (f b x).value) b := by
  induction xs generalizing b with
  | nil => rfl
  | cons x xs ih => simp [ih]

theorem events_mapM (f : α → Traced β) (xs : List α) :
    (xs.mapM f).events = xs.flatMap fun x => (f x).events := by
  induction xs with
  | nil => rfl
  | cons x xs ih => simp [List.mapM_cons, ih]

/-- A search for an item that passes asks up to the first that does. -/
theorem events_anyM (p : α → Traced Bool) (xs : List α) :
    (xs.anyM p).events =
      (xs.throughFirst fun x => (p x).value).flatMap fun x => (p x).events := by
  induction xs with
  | nil => rfl
  | cons x xs ih =>
    rw [List.anyM, events_bind, List.throughFirst_cons, List.flatMap_cons]
    congr 1
    cases (p x).value
    · exact ih
    · rfl

/-- A check that all items pass asks up to the first that does not. -/
theorem events_allM (p : α → Traced Bool) (xs : List α) :
    (xs.allM p).events =
      (xs.throughFirst fun x => !(p x).value).flatMap fun x => (p x).events := by
  induction xs with
  | nil => rfl
  | cons x xs ih =>
    rw [List.allM, events_bind, List.throughFirst_cons, List.flatMap_cons]
    congr 1
    cases (p x).value
    · rfl
    · exact ih

/-- A filter shows one test of each item, in order. -/
theorem events_filterM {α : Type} (test : α → Traced Bool) (xs : List α) :
    (xs.filterM test).events = xs.flatMap fun x => (test x).events := by
  induction xs with
  | nil => rfl
  | cons x xs ih =>
    rw [List.filterM_cons, events_bind, events_bind, events_pure, List.append_nil, ih,
      List.flatMap_cons]

/-- A test that also writes down what it is asked about. -/
def recorded {α : Type} (test : α → Traced Bool) (x : α) : StateT (List α) Traced Bool := do
  modify (· ++ [x])
  test x

/-- Of a filter the items of the list are written down, each once and in order, whatever the test
says of them, and nothing else changes. -/
theorem filterM_recorded {α : Type} (test : α → Traced Bool) (xs asked : List α) :
    (xs.filterM (recorded test)).run asked =
      (fun kept => (kept, asked ++ xs)) <$> xs.filterM test := by
  induction xs generalizing asked with
  | nil => simp [List.filterM, List.filterAuxM]
  | cons x xs ih =>
    rw [List.filterM_cons, List.filterM_cons]
    simp [recorded, ih]

/-- Every event is of a kind. -/
def Emits (P : Event → Prop) {α : Type u} (x : Traced α) : Prop :=
  ∀ e ∈ x.events, P e

section Emits

variable {α β : Type u} {P : Event → Prop}

theorem emits_pure (a : α) : (pure a : Traced α).Emits P := by
  simp [Emits]

theorem emits_ask {q : Query} (h : P (.query q)) (a : α) : (ask q a).Emits P := by
  simpa [Emits] using h

theorem emits_note {n : Notice} (h : P (.notice n)) : (note n : Traced PUnit).Emits P := by
  simpa [Emits] using h

theorem Emits.bind {x : Traced α} {f : α → Traced β} (hx : x.Emits P)
    (hf : ∀ a, (f a).Emits P) : (x >>= f).Emits P := by
  intro e he
  rw [events_bind, List.mem_append] at he
  rcases he with he | he
  · exact hx e he
  · exact hf x.value e he

theorem Emits.map {x : Traced α} (hx : x.Emits P) (f : α → β) : (f <$> x).Emits P := by
  intro e he
  rw [events_map] at he
  exact hx e he

theorem emits_mapM {γ : Type v} {f : γ → Traced α} (hf : ∀ c, (f c).Emits P) (xs : List γ) :
    (xs.mapM f).Emits P := by
  induction xs with
  | nil => exact emits_pure _
  | cons x xs ih =>
    rw [List.mapM_cons]
    exact (hf x).bind fun _ => ih.bind fun _ => emits_pure _

end Emits

end Traced

namespace TracedReading

variable {ε α β : Type}

/-- What a reading ends with, without its trace. -/
def outcome (x : TracedReading ε α) : Except ε α :=
  x.run.value

@[simp] theorem outcome_pure (a : α) : outcome (pure a : TracedReading ε α) = .ok a := rfl

@[simp] theorem outcome_throw (e : ε) : outcome (throw e : TracedReading ε α) = .error e := rfl

@[simp] theorem outcome_mk_pure (r : Except ε α) :
    outcome (ExceptT.mk (pure r) : TracedReading ε α) = r := rfl

@[simp] theorem outcome_lift (x : Traced α) :
    outcome (ExceptT.lift x : TracedReading ε α) = .ok x.value := rfl

@[simp] theorem outcome_map (f : α → β) (x : TracedReading ε α) :
    outcome (f <$> x) = f <$> outcome x := by
  unfold outcome
  rw [ExceptT.run_map, Traced.value_map]
  rfl

@[simp] theorem outcome_bind (x : TracedReading ε α) (f : α → TracedReading ε β) :
    outcome (x >>= f) = outcome x >>= fun a => outcome (f a) := by
  unfold outcome
  rw [ExceptT.run_bind, Traced.value_bind]
  cases x.run.value <;> rfl

theorem outcome_bind_eq_ok {x : TracedReading ε α} {f : α → TracedReading ε β} {b : β} :
    outcome (x >>= f) = .ok b ↔ ∃ a, outcome x = .ok a ∧ outcome (f a) = .ok b := by
  rw [outcome_bind]
  cases outcome x with
  | error e =>
    constructor
    · intro h
      cases h
    · rintro ⟨a, h, -⟩
      cases h
  | ok a =>
    constructor
    · intro h
      exact ⟨a, rfl, h⟩
    · rintro ⟨a', ha, h⟩
      obtain rfl := Except.ok.inj ha
      exact h

theorem outcome_map_eq_ok {x : TracedReading ε α} {f : α → β} {b : β} :
    outcome (f <$> x) = .ok b ↔ ∃ a, outcome x = .ok a ∧ f a = b := by
  rw [outcome_map]
  cases outcome x <;> simp [Functor.map, Except.map]

theorem outcome_adapt {ε' : Type} (f : ε → ε') (x : TracedReading ε α) :
    outcome (ExceptT.adapt f x : TracedReading ε' α) = (outcome x).mapError f := rfl

theorem outcome_adapt_eq_ok {ε' : Type} {f : ε → ε'} {x : TracedReading ε α} {a : α} :
    outcome (ExceptT.adapt f x : TracedReading ε' α) = .ok a ↔ outcome x = .ok a := by
  rw [outcome_adapt]
  cases outcome x with
  | error e =>
    constructor
    · intro h
      cases h
    · intro h
      cases h
  | ok b => exact ⟨fun h => congrArg _ (Except.ok.inj h), fun h => congrArg _ (Except.ok.inj h)⟩

/-! ## What a reading shows -/

/-- The events of a reading, up to where it ends or fails. -/
def events (x : TracedReading ε α) : List Event :=
  x.run.events

@[simp] theorem events_pure (a : α) : events (pure a : TracedReading ε α) = [] := rfl

@[simp] theorem events_throw (e : ε) : events (throw e : TracedReading ε α) = [] := rfl

@[simp] theorem events_mk_pure (r : Except ε α) :
    events (ExceptT.mk (pure r) : TracedReading ε α) = [] := rfl

@[simp] theorem events_lift (x : Traced α) :
    events (ExceptT.lift x : TracedReading ε α) = x.events :=
  Traced.events_map _ x

@[simp] theorem events_map (f : α → β) (x : TracedReading ε α) : events (f <$> x) = events x := by
  unfold events
  rw [ExceptT.run_map, Traced.events_map]

theorem events_bind_of_ok {x : TracedReading ε α} {a : α} (h : outcome x = .ok a)
    (f : α → TracedReading ε β) : events (x >>= f) = events x ++ events (f a) := by
  unfold outcome at h
  unfold events
  rw [ExceptT.run_bind, Traced.events_bind, h]

theorem events_bind_of_error {x : TracedReading ε α} {e : ε} (h : outcome x = .error e)
    (f : α → TracedReading ε β) : events (x >>= f) = events x := by
  unfold outcome at h
  unfold events
  rw [ExceptT.run_bind, Traced.events_bind, h, Traced.events_pure, List.append_nil]

/-- Every event of the reading is of a kind, whether it succeeds or not. -/
def Emits (P : Event → Prop) (x : TracedReading ε α) : Prop :=
  Traced.Emits P x.run

section Emits

variable {P : Event → Prop}

theorem emits_pure (a : α) : Emits P (pure a : TracedReading ε α) :=
  Traced.emits_pure _

theorem emits_throw (e : ε) : Emits P (throw e : TracedReading ε α) :=
  Traced.emits_pure _

theorem emits_mk_pure (r : Except ε α) : Emits P (ExceptT.mk (pure r) : TracedReading ε α) :=
  Traced.emits_pure _

theorem emits_lift {x : Traced α} (hx : x.Emits P) :
    Emits P (ExceptT.lift x : TracedReading ε α) :=
  hx.map _

theorem Emits.bind {x : TracedReading ε α} {f : α → TracedReading ε β} (hx : Emits P x)
    (hf : ∀ a, Emits P (f a)) : Emits P (x >>= f) := by
  unfold Emits
  rw [ExceptT.run_bind]
  refine Traced.Emits.bind hx fun r => ?_
  cases r with
  | error e => exact Traced.emits_pure _
  | ok a => exact hf a

theorem Emits.map {x : TracedReading ε α} (hx : Emits P x) (f : α → β) : Emits P (f <$> x) := by
  unfold Emits
  rw [ExceptT.run_map]
  exact Traced.Emits.map hx _

theorem Emits.adapt {ε' : Type} {x : TracedReading ε α} (hx : Emits P x) (f : ε → ε') :
    Emits P (ExceptT.adapt f x : TracedReading ε' α) :=
  Traced.Emits.map hx _

end Emits

end TracedReading
end GameTips
