import FenceSync.CommandLine.Arguments
import Mathlib.Data.List.TakeWhile

namespace FenceSync.CommandLine

/-!
# Switches on a command line

A switch that is spelled out among the options is on, whatever else is given.

* `Given.Grows` says that no switch has gone off.  Reading goes on like that: `grows_readFrom` for
  arguments, `grows_complete` for the environment.
* `isOn_of_request` is the full statement.
-/

namespace Given

/-- No switch has gone off. -/
def Grows (g g' : Given) : Prop := ∀ s, g.isOn s = true → g'.isOn s = true

theorem Grows.refl (g : Given) : g.Grows g := fun _ h => h

theorem Grows.trans {g g' g'' : Given} (h : g.Grows g') (h' : g'.Grows g'') : g.Grows g'' :=
  fun s hs => h' s (h s hs)

theorem grows_of_switches {g g' : Given} (h : g'.switches = g.switches) : g.Grows g' := by
  intro s hs
  rwa [isOn, h]

theorem has_of_isOn {g : Given} {s : Switch} (h : g.isOn s = true) :
    g.has (.switch s) = true := by
  rw [isOn] at h
  rw [has]
  cases hlookup : g.switches.lookup s with
  | none =>
    rw [hlookup] at h
    cases h
  | some b => rfl

/-- A switch that was not given does not hide another one. -/
theorem grows_switch {g : Given} {s : Switch} (h : ¬ g.has (.switch s) = true) (b : Bool) :
    g.Grows { g with switches := (s, b) :: g.switches } := by
  intro s' hs'
  have hne : s' ≠ s := by
    rintro rfl
    exact h (has_of_isOn hs')
  rwa [isOn, List.lookup_cons, beq_false_of_ne hne]

/-! ### One option -/

/-- A switch that is added is on. -/
theorem isOn_add_switch {g g' : Given} {arg : Text} {s : Switch}
    (h : g.add arg (.switch s) none = .ok g') : g'.isOn s = true := by
  unfold add at h
  split at h
  · cases h
  · cases h
    simp [isOn]

theorem grows_add {g g' : Given} {arg : Text} {k : Key} {value : Option Text}
    (h : g.add arg k value = .ok g') : g.Grows g' := by
  unfold add at h
  split at h
  · cases h
  · next hhas =>
    split at h
    · cases h
      exact grows_switch hhas true
    · cases h
      exact grows_of_switches rfl
    · split at h
      · cases h
        exact grows_of_switches rfl
      · cases h
    · split at h
      · cases h
        exact grows_of_switches rfl
      · cases h
    · cases h
    · cases h

/-! ### One argument -/

/-- Where reading an option can lead: it does not end the options, and no switch goes off. -/
def Step.Continues (g : Given) : Step → Prop
  | .given g' | .needsValue g' _ _ => g.Grows g'
  | .endOfOptions => False
  | .version | .help => True

theorem Step.Continues.of_grows {g g' : Given} {step : Step} (h : g.Grows g')
    (hstep : step.Continues g') : step.Continues g := by
  cases step with
  | given g₁ => exact h.trans hstep
  | needsValue g₁ arg p => exact h.trans hstep
  | endOfOptions => exact hstep
  | version => trivial
  | help => trivial

theorem continues_of_add {g : Given} {arg : Text} {k : Key} {value : Option Text} {step : Step}
    (h : (g.add arg k value).map Step.given = .ok step) : step.Continues g := by
  cases hadd : g.add arg k value with
  | error e =>
    rw [hadd] at h
    cases h
  | ok g' =>
    rw [hadd] at h
    cases h
    exact grows_add hadd

theorem addLetters_continues {g : Given} {letters : Text} {step : Step}
    (h : g.addLetters letters = .ok step) : step.Continues g := by
  induction letters generalizing g with
  | nil =>
    cases h
    exact .refl _
  | cons c letters ih =>
    simp only [addLetters] at h
    split at h
    · cases h
    · cases h
      trivial
    · cases h
      trivial
    · split at h
      · cases h
        exact .refl _
      · exact continues_of_add h
    · split at h
      · cases h
      · next hadd => exact .of_grows (grows_add hadd) (ih h)

theorem addNamed_continues {g : Given} {arg name : Text} {value : Option Text} {step : Step}
    (h : g.addNamed arg name value = .ok step) : step.Continues g := by
  unfold addNamed at h
  split at h
  · cases h
  · cases h
    trivial
  · cases h
    trivial
  · split at h
    · cases h
    · cases h
      exact .refl _
  · exact continues_of_add h

/-- Only the mark ends the options. -/
theorem addArgument_continues {g : Given} {arg : Text} {step : Step}
    (h : g.addArgument arg = .ok step) : arg = ['-', '-'] ∨ step.Continues g := by
  unfold addArgument at h
  split at h
  · exact .inl rfl
  · exact .inr (addNamed_continues h)
  · exact .inr (addLetters_continues h)
  · cases h
    exact .inr (grows_of_switches rfl)

/-- A switch that is spelled out is on behind its argument. -/
theorem isOn_of_addArgument {g : Given} {name : Text} {s : Switch} {step : Step}
    (hname : longNames.lookup (String.ofList name) = some (.switch s)) (heq : '=' ∉ name)
    (h : g.addArgument ('-' :: '-' :: name) = .ok step) :
    ∃ g', step = .given g' ∧ g'.isOn s = true := by
  have hpos : ∀ c ∈ name, decide (c ≠ '=') = true := by
    intro c hc
    exact decide_eq_true fun h => heq (h ▸ hc)
  have hdrop : name.dropWhile (fun c => decide (c ≠ '=')) = [] :=
    List.dropWhile_eq_nil_iff.mpr hpos
  have htake : name.takeWhile (fun c => decide (c ≠ '=')) = name :=
    List.takeWhile_eq_self_iff.mpr hpos
  have hadded : g.addArgument ('-' :: '-' :: name) =
      (g.add ('-' :: '-' :: name) (.switch s) none).map .given := by
    cases name with
    | nil => cases hname
    | cons c name => simp only [addArgument, hdrop, htake, addNamed, hname]
  rw [hadded] at h
  cases hadd : g.add ('-' :: '-' :: name) (.switch s) none with
  | error e =>
    rw [hadd] at h
    cases h
  | ok g' =>
    rw [hadd] at h
    cases h
    exact ⟨g', rfl, isOn_add_switch hadd⟩

/-! ### All arguments -/

theorem grows_readFrom {g g' : Given} {args : List Text} (h : g.readFrom args = .ok (.run g')) :
    g.Grows g' := by
  fun_induction readFrom g args with
  | case1 g =>
    cases h
    exact .refl _
  | case5 g arg args hstep =>
    cases h
    exact grows_of_switches rfl
  | case6 g arg args g₁ hstep ih =>
    rcases addArgument_continues hstep with rfl | hcontinues
    · cases hstep
    · exact hcontinues.trans (ih h)
  | case10 g arg g₁ spelled p hstep v args hlooks g₂ hadd ih =>
    rcases addArgument_continues hstep with rfl | hcontinues
    · cases hstep
    · exact hcontinues.trans ((grows_add hadd).trans (ih h))
  | _ => cases h

end Given

/-- The argument stands in front of the mark behind which there are only sources. -/
def AmongOptions (arg : Text) (args : List Text) : Prop :=
  arg ∈ args.takeWhile fun a => decide (a ≠ ['-', '-'])

instance (arg : Text) (args : List Text) : Decidable (AmongOptions arg args) :=
  inferInstanceAs (Decidable (arg ∈ args.takeWhile _))

theorem amongOptions_cons {arg a : Text} {args : List Text} (h : AmongOptions arg (a :: args)) :
    a ≠ ['-', '-'] ∧ (arg = a ∨ AmongOptions arg args) := by
  rw [AmongOptions] at h
  by_cases ha : a = ['-', '-']
  · rw [List.takeWhile_cons_of_neg (by simp [ha])] at h
    cases h
  · rw [List.takeWhile_cons_of_pos (by simp [ha]), List.mem_cons] at h
    exact ⟨ha, h⟩

namespace Given

theorem isOn_readFrom {g g' : Given} {args : List Text} {name : Text} {s : Switch}
    (hname : longNames.lookup (String.ofList name) = some (.switch s)) (heq : '=' ∉ name)
    (hmem : AmongOptions ('-' :: '-' :: name) args) (h : g.readFrom args = .ok (.run g')) :
    g'.isOn s = true := by
  fun_induction readFrom g args with
  | case1 g => cases hmem
  | case5 g arg args hstep =>
    rcases addArgument_continues hstep with harg | hcontinues
    · exact absurd harg (amongOptions_cons hmem).1
    · cases hcontinues
  | case6 g arg args g₁ hstep ih =>
    rcases (amongOptions_cons hmem).2 with rfl | hmem
    · -- This is the switch: it is on from here.
      obtain ⟨g₂, hg₂, hon⟩ := isOn_of_addArgument hname heq hstep
      cases hg₂
      exact grows_readFrom h s hon
    · exact ih hmem h
  | case10 g arg g₁ spelled p hstep v args hlooks g₂ hadd ih =>
    rcases (amongOptions_cons hmem).2 with rfl | hmem
    · obtain ⟨g₂, hg₂, -⟩ := isOn_of_addArgument hname heq hstep
      cases hg₂
    · -- What looks like an option is not taken for a value.
      rcases (amongOptions_cons hmem).2 with rfl | hmem
      · exact absurd rfl hlooks
      · exact ih hmem h
  | _ => cases h

/-! ### The environment -/

theorem grows_addVariable {env : String → Option Text} {g g' : Given} {k : Key}
    (h : g.addVariable env k = .ok g') : g.Grows g' := by
  unfold addVariable at h
  split at h
  · cases h
    exact .refl _
  · split at h
    · cases h
      exact .refl _
    · next hhas =>
      split at h
      · cases h
        exact .refl _
      · split at h
        · cases h
          exact grows_switch hhas _
        · cases h
      · exact grows_add h

theorem grows_complete {env : String → Option Text} {g g' : Given}
    (h : g.complete env = .ok g') : g.Grows g' := by
  rw [complete] at h
  generalize variableKeys = keys at h
  induction keys generalizing g with
  | nil =>
    cases h
    exact .refl _
  | cons k keys ih =>
    rw [List.foldlM_cons] at h
    cases hk : addVariable env g k with
    | error e =>
      rw [hk] at h
      cases h
    | ok g₁ =>
      rw [hk] at h
      exact (grows_addVariable hk).trans (ih h)

end Given

/-- **A switch that is spelled out among the options is on.** -/
theorem isOn_of_request {env : String → Option Text} {args : List Text} {g : Given} {name : Text}
    {s : Switch} (hname : longNames.lookup (String.ofList name) = some (.switch s))
    (heq : '=' ∉ name) (hmem : AmongOptions ('-' :: '-' :: name) args)
    (h : request env args = .ok (.run g)) : g.isOn s = true := by
  unfold request at h
  cases hread : Given.read args with
  | error e =>
    rw [hread] at h
    cases h
  | ok asked =>
    rw [hread] at h
    cases asked with
    | version => cases h
    | help => cases h
    | run g₁ =>
      have h' : (do return Asked.run (← g₁.complete env)) = Except.ok (Asked.run g) := h
      cases hcomplete : g₁.complete env with
      | error e =>
        rw [hcomplete] at h'
        cases h'
      | ok g₂ =>
        rw [hcomplete] at h'
        cases h'
        exact Given.grows_complete hcomplete s (Given.isOn_readFrom hname heq hmem hread)

end FenceSync.CommandLine
