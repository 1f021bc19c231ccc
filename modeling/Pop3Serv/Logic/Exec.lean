import Mathlib

/-!
# Runs of a partial step function

A system is a step function `step : σ → ε → Option σ`; an event is refused where
the step is `none`. `exec` folds it over a list of events, `Reachable` is the
set of states some list leads to, and the rules below are the inductions every
proof about runs uses: one for an invariant, one for an invariant that is kept only by
steps that meet a condition, and one for a relation between two systems.
-/

namespace Pop3Serv.Logic

variable {σ ε : Type*} {step : σ → ε → Option σ}

/-- The state after the events, if every one of them could happen. -/
def exec (step : σ → ε → Option σ) (s : σ) (es : List ε) : Option σ := es.foldlM step s

@[simp] theorem exec_nil (s : σ) : exec step s [] = some s := rfl

theorem exec_cons (s : σ) (e : ε) (es : List ε) :
    exec step s (e :: es) = (step s e).bind fun t => exec step t es := rfl

theorem exec_append (s : σ) (es fs : List ε) :
    exec step s (es ++ fs) = (exec step s es).bind fun t => exec step t fs := by
  simp [exec, List.foldlM_append]

theorem exec_append_some {s u : σ} {es fs : List ε} (h : exec step s (es ++ fs) = some u) :
    ∃ t, exec step s es = some t ∧ exec step t fs = some u := by
  rw [exec_append] at h
  exact Option.bind_eq_some_iff.mp h

theorem exec_snoc {s t u : σ} {es : List ε} {e : ε} (run : exec step s es = some t)
    (last : step t e = some u) : exec step s (es ++ [e]) = some u := by
  rw [exec_append, run]
  simp [exec_cons, last]

theorem exec_snoc_some {s u : σ} {es : List ε} {e : ε} (h : exec step s (es ++ [e]) = some u) :
    ∃ t, exec step s es = some t ∧ step t e = some u := by
  obtain ⟨t, run, last⟩ := exec_append_some h
  refine ⟨t, run, ?_⟩
  simpa [exec_cons] using last

/-- Some list of events leads from `s` to `t`. -/
def Reachable (step : σ → ε → Option σ) (s t : σ) : Prop := ∃ es, exec step s es = some t

theorem Reachable.refl (s : σ) : Reachable step s s := ⟨[], rfl⟩

theorem Reachable.snoc {s t u : σ} {e : ε} (h : Reachable step s t) (last : step t e = some u) :
    Reachable step s u := by
  obtain ⟨es, run⟩ := h
  exact ⟨es ++ [e], exec_snoc run last⟩

/-- Every step of the run meets the condition `C` on the state before it and its event. -/
def StepsMeet (step : σ → ε → Option σ) (C : σ → ε → Prop) : σ → List ε → Prop
  | _, [] => True
  | s, e :: es => C s e ∧ ∀ t, step s e = some t → StepsMeet step C t es

instance StepsMeet.decidable (step : σ → ε → Option σ) (C : σ → ε → Prop) [∀ s e, Decidable (C s e)] :
    (s : σ) → (es : List ε) → Decidable (StepsMeet step C s es)
  | _, [] => .isTrue trivial
  | s, e :: es =>
    if here : C s e then
      match first : step s e with
      | none => .isTrue ⟨here, fun t next => by cases first.symm.trans next⟩
      | some t =>
        match StepsMeet.decidable step C t es with
        | .isTrue rest => .isTrue ⟨here, fun u next => by cases first.symm.trans next; exact rest⟩
        | .isFalse rest => .isFalse fun meet => rest (meet.2 t first)
    else .isFalse fun meet => here meet.1

/-- One step of a run that meets the condition, with the state it leads to. -/
theorem StepsMeet.cons {C : σ → ε → Prop} {s t : σ} {e : ε} {es : List ε} (here : C s e)
    (first : step s e = some t) (rest : StepsMeet step C t es) : StepsMeet step C s (e :: es) :=
  ⟨here, fun _ next => Option.some.inj (first.symm.trans next) ▸ rest⟩

theorem StepsMeet.of_all {C : σ → ε → Prop} (all : ∀ s e, C s e) (s : σ) (es : List ε) :
    StepsMeet step C s es := by
  induction es generalizing s with
  | nil => trivial
  | cons e es ih => exact ⟨all s e, fun t _ => ih t⟩

theorem StepsMeet.of_append {C : σ → ε → Prop} {s : σ} {es fs : List ε}
    (meet : StepsMeet step C s (es ++ fs)) : StepsMeet step C s es := by
  induction es generalizing s with
  | nil => trivial
  | cons e es ih => exact ⟨meet.1, fun t first => ih (meet.2 t first)⟩

/-- A condition on the events alone. -/
theorem StepsMeet.of_mem {C : ε → Prop} {es : List ε} (all : ∀ e ∈ es, C e) (s : σ) :
    StepsMeet step (fun _ => C) s es := by
  induction es generalizing s with
  | nil => trivial
  | cons e es ih =>
    exact ⟨all e List.mem_cons_self, fun t _ => ih (fun e' member => all e' (List.mem_cons_of_mem e member)) t⟩

theorem StepsMeet.mono {C C' : σ → ε → Prop} (weaker : ∀ s e, C s e → C' s e) {s : σ} {es : List ε}
    (meet : StepsMeet step C s es) : StepsMeet step C' s es := by
  induction es generalizing s with
  | nil => trivial
  | cons e es ih => exact ⟨weaker s e meet.1, fun t first => ih (meet.2 t first)⟩

theorem StepsMeet.and {C C' : σ → ε → Prop} {s : σ} {es : List ε} (meet : StepsMeet step C s es)
    (meet' : StepsMeet step C' s es) : StepsMeet step (fun s e => C s e ∧ C' s e) s es := by
  induction es generalizing s with
  | nil => trivial
  | cons e es ih => exact ⟨⟨meet.1, meet'.1⟩, fun t first => ih (meet.2 t first) (meet'.2 t first)⟩

/-- A run that meets the condition, and one that goes on from it. -/
theorem StepsMeet.append {C : σ → ε → Prop} {s : σ} {es fs : List ε} (meet : StepsMeet step C s es)
    (rest : ∀ t, exec step s es = some t → StepsMeet step C t fs) : StepsMeet step C s (es ++ fs) := by
  induction es generalizing s with
  | nil => exact rest s rfl
  | cons e es ih =>
    refine ⟨meet.1, fun t first => ih (meet.2 t first) fun u run => rest u ?_⟩
    rw [exec_cons, first]
    exact run

/-- What is left of a run meets the condition too. -/
theorem StepsMeet.of_append_right {C : σ → ε → Prop} {s t : σ} {es fs : List ε}
    (meet : StepsMeet step C s (es ++ fs)) (run : exec step s es = some t) : StepsMeet step C t fs := by
  induction es generalizing s with
  | nil => cases run; exact meet
  | cons e es ih =>
    obtain ⟨next, first, rest⟩ := Option.bind_eq_some_iff.mp (exec_cons s e es ▸ run)
    exact ih (meet.2 next first) rest

/-- The invariant rule for what also depends on the events so far. -/
theorem exec_history_of (P : List ε → σ → Prop) (C : σ → ε → Prop) {s : σ}
    (keep : ∀ es t e u, exec step s es = some t → P es t → C t e → step t e = some u → P (es ++ [e]) u)
    {t : σ} {es : List ε} (start : P [] s) (meet : StepsMeet step C s es)
    (run : exec step s es = some t) : P es t := by
  -- `past` is the run so far, and the induction is on what is left of it
  have goOn : ∀ (left past : List ε) (now : σ), exec step s past = some now → P past now →
      StepsMeet step C now left → exec step now left = some t → P (past ++ left) t := by
    intro left
    induction left with
    | nil =>
      intro past now _ here _ run
      cases run
      rw [List.append_nil]
      exact here
    | cons e left ih =>
      intro past now arrived here meet run
      obtain ⟨next, first, rest⟩ := Option.bind_eq_some_iff.mp (exec_cons now e left ▸ run)
      rw [← List.singleton_append, ← List.append_assoc]
      exact ih _ next (exec_snoc arrived first) (keep past now e next arrived here meet.1 first)
        (meet.2 next first) rest
  exact goOn es [] s rfl start meet run

/-- An invariant that only the steps meeting `C` keep holds after every run made of such steps. -/
theorem exec_invariant_of (I : σ → Prop) (C : σ → ε → Prop)
    (keep : ∀ s e t, I s → C s e → step s e = some t → I t)
    {s t : σ} {es : List ε} (start : I s) (meet : StepsMeet step C s es)
    (run : exec step s es = some t) : I t :=
  exec_history_of (fun _ => I) C (fun _ now e next _ here meets first => keep now e next here meets first)
    start meet run

/-- **The invariant rule.** -/
theorem exec_invariant (I : σ → Prop) (keep : ∀ s e t, I s → step s e = some t → I t)
    {s t : σ} {es : List ε} (start : I s) (run : exec step s es = some t) : I t :=
  exec_invariant_of I (fun _ _ => True) (fun s e t here _ first => keep s e t here first) start
    (.of_all (fun _ _ => trivial) s es) run

theorem Reachable.invariant (I : σ → Prop) (keep : ∀ s e t, I s → step s e = some t → I t)
    {s t : σ} (start : I s) (h : Reachable step s t) : I t := by
  obtain ⟨es, run⟩ := h
  exact exec_invariant I keep start run

/-- **The simulation rule**: related states go to related states, and the two runs stop together. -/
theorem exec_related {τ : Type*} {step' : τ → ε → Option τ} (R : σ → τ → Prop)
    (keep : ∀ s t e, R s t → Option.Rel R (step s e) (step' t e)) {s : σ} {t : τ} (start : R s t) (es : List ε) :
    Option.Rel R (exec step s es) (exec step' t es) := by
  induction es generalizing s t with
  | nil => exact .some start
  | cons e es ih =>
    rw [exec_cons, exec_cons]
    have first := keep s t e start
    generalize step s e = next, step' t e = next' at first ⊢
    cases first with
    | some related => exact ih related
    | none => exact .none

end Pop3Serv.Logic
