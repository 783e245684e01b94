import Lockstep.Proofs.Shared.Scripts
import Lockstep.Proofs.Time.Pace

namespace Lockstep.Clock

/-- The step as a change of shared cells. -/
def Step.change : Step → Shared.Change Clock
  | advance handle s => .update handle (·.advance s)
  | reset handle => .update handle Clock.reset
  | clone handle => .clone handle
  | fresh => .fresh

/-- Carries out the steps of a script in turn. -/
def performAll (clocks : Shared Clock) (script : List Step) : Option (Shared Clock) :=
  script.foldlM Step.perform clocks

section Lapse

variable (own : ℕ → Prop) [DecidablePred own]

/-- The step resets a clock through a handle of one's own. -/
def Step.resets : Step → Bool
  | reset handle => decide (own handle)
  | advance .. | clone _ | fresh => false

/-- The nanoseconds by which the step advances a clock through a handle of one's own. A span that does not fit into
a word is cut to the longest that does. -/
def Step.advances : Step → ℕ
  | advance handle s => if own handle then min s.nanos (2 ^ 64 - 1) else 0
  | reset _ | clone _ | fresh => 0

/-- The nanoseconds by which a clock was advanced, through handles of one's own, since it was last reset through one
of them. -/
def lapse (script : List Step) : ℕ :=
  ((script.reverse.takeWhile fun step => !step.resets own).map (Step.advances own)).sum

theorem lapse_snoc (script : List Step) (step : Step) :
    lapse own (script ++ [step]) =
      if step.resets own then 0 else step.advances own + lapse own script := by
  rw [lapse, List.reverse_append, List.reverse_singleton, List.singleton_append, List.takeWhile_cons]
  cases step.resets own <;> rfl

/-- A clock keeps the lapse as far as a word does. -/
theorem toNat_count_evolve (script : List Step) :
    (Shared.evolve own {} (script.map Step.change)).count.toNat = lapse own script % 2 ^ 64 := by
  induction script using List.reverseRecOn with
  | nil => rfl
  | append_singleton script step ih =>
    rw [List.map_append, List.map_singleton, Shared.evolve_snoc, lapse_snoc]
    cases step with
    | advance h s =>
      by_cases hown : own h
      · simp only [Step.change, Shared.Change.effect, Step.resets, Step.advances, hown, ↓reduceIte,
          Bool.false_eq_true]
        rw [toNat_count_advance_mod, ih, Nat.mod_add_mod, Nat.add_comm]
      · simp only [Step.change, Shared.Change.effect, Step.resets, Step.advances, hown, ↓reduceIte,
          Bool.false_eq_true]
        rw [ih, Nat.zero_add]
    | reset h =>
      by_cases hown : own h
      · simp only [Step.change, Shared.Change.effect, Step.resets, hown, ↓reduceIte, decide_true]
        rfl
      · simp only [Step.change, Shared.Change.effect, Step.resets, Step.advances, hown, ↓reduceIte,
          decide_false, Bool.false_eq_true]
        rw [ih, Nat.zero_add]
    | clone | fresh =>
      simp only [Step.change, Shared.Change.effect, Step.resets, Step.advances, Bool.false_eq_true,
        ↓reduceIte]
      rw [ih, Nat.zero_add]

end Lapse

theorem Step.perform_eq (clocks : Shared Clock) (step : Step) :
    step.perform clocks = step.change.apply {} clocks := by
  cases step <;> rfl

theorem performAll_eq (script : List Step) :
    performAll (.single {}) script = Shared.run {} (script.map Step.change) := by
  rw [performAll, Shared.run, List.foldlM_map]
  congr 1
  funext clocks step
  exact step.perform_eq clocks

/-- **Shared clocks.** One clock at zero has one handle, and a script advances and resets clocks, clones handles and
makes new clocks, each step through a handle that is there. It can be carried out to its end. Each handle then
shows the time by which its family advanced the clock since it last reset it, every span cut to a word and the sum
modulo `2 ^ 64`. Handles of one family show the same clock. Whatever step comes next can be carried out too, and
changes no clock of another family, and none at all if it makes a handle. All this holds of every script, so it
holds after each step of one. -/
theorem elapsed_of_script {script : List Step} (husable : Shared.Usable (script.map Step.change)) :
    let changes := script.map Step.change
    let count := Shared.handleCount changes
    ∃ clocks, performAll (.single {}) script = some clocks ∧ clocks.handles.length = count ∧
      (∀ k < count, ∃ c, clocks.read? k = some c ∧
        c.elapsed.nanos = lapse (Shared.Family changes · k) script % 2 ^ 64) ∧
      (∀ j < count, ∀ k < count, Shared.Family changes j k → clocks.read? j = clocks.read? k) ∧
      ∀ step : Step, Shared.Usable (changes ++ [step.change]) →
        ∃ next, step.perform clocks = some next ∧ ∀ k < count,
          (∀ h ∈ step.change.target?, ¬ Shared.Family changes h k) → next.read? k = clocks.read? k := by
  intro changes count
  obtain ⟨clocks, hrun, hclocks⟩ := Shared.exists_run {} husable
  refine ⟨clocks, (performAll_eq script).trans hrun, hclocks.length, ?_, ?_, ?_⟩
  · intro k hk
    refine ⟨_, hclocks.shows k hk, ?_⟩
    exact toNat_count_evolve (Shared.Family changes · k) script
  · intro j hj k hk hfamily
    exact hclocks.read?_of_family hj hk hfamily
  · intro step hnext
    obtain ⟨next, happly, -⟩ := hclocks.exists_apply hnext
    refine ⟨next, (step.perform_eq clocks).trans happly, ?_⟩
    intro k hk hother
    exact hclocks.read?_apply_of_not_family hnext happly hk hother

/-- A clone of a clone resets the clock of all three, and one of the next spans is longer than any word. The clock that
was made anew goes its own way. -/
theorem elapsed_of_script_wrapping :
    let long : Span := ⟨2 ^ 65, by decide⟩
    let script : List Step := [.clone 0, .clone 1, .fresh, .advance 0 (.ofWord 7), .advance 3 (.ofWord 5),
      .reset 2, .advance 1 long, .advance 0 (.ofWord 10)]
    Shared.Usable (script.map Step.change) ∧ ∃ clocks, performAll (.single {}) script = some clocks ∧
      (clocks.read? 2).map (·.elapsed.nanos) = some 9 ∧ (clocks.read? 3).map (·.elapsed.nanos) = some 5 := by
  intro long script
  have husable : Shared.Usable (script.map Step.change) := by decide
  obtain ⟨clocks, hperform, -, hshows, -⟩ := elapsed_of_script husable
  have hshown (k n : ℕ) (hk : k < 4)
      (hn : lapse (Shared.Family (script.map Step.change) · k) script % 2 ^ 64 = n) :
      (clocks.read? k).map (·.elapsed.nanos) = some n := by
    obtain ⟨c, hc, hnanos⟩ := hshows k hk
    rw [hc, Option.map_some, hnanos, hn]
  exact ⟨husable, clocks, hperform, hshown 2 9 (by decide) (by decide), hshown 3 5 (by decide) (by decide)⟩

end Lockstep.Clock
