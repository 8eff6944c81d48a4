/-
ManifestDeps.Proofs.ModelClassTheorems — what the class of a model is made
from.

The rule for models goes through the models of a manifest and notes on its
way what it finds. `Manifest.inferClass` is the step for one model, with the
outcome so far as something that is handed on: at each of its exits it gives
a class, or it gives none and has noted a warning.

Two things are proved of the step, for any model and from any outcome. Every
exit is one of two kinds (`Manifest.settled_inferClass`, one case for each
exit): a class that has a name and nothing noted, or no class and one warning.
And the step looks at one entry among the models and at no more than one among
the data sources (`Manifest.SameFor`), so that it gives and notes the same
in all manifests that agree there.
-/
import ManifestDeps.Proofs.AccountingTheorems

namespace ManifestDeps

open TargetView (nonEmpty?)

/-! ## §1 One exit for each answer -/

/-- In a settled answer a class is missing just if one warning is noted, and
there is one with a name just if none is. -/
theorem Derivation.Settled.accounts {d : Derivation} {answer : Option String × Derivation}
    (h : d.Settled answer) :
    ∃ ws, answer.2 = d.noting ws ∧ (∀ w ∈ ws, w.severity = .warn) ∧
      (answer.1 = none ↔ ws.length = 1) ∧
      ((∃ type, answer.1 = some type ∧ type ≠ "") ↔ ws.length = 0) := by
  cases h with
  | @named type hne => exact ⟨[], by simp [noting], by simp, by simp, by simpa using hne⟩
  | @warned w hw => exact ⟨[w], rfl, by simpa using hw, by simp, by simp⟩

/-! ## §2 What the step looks at -/

namespace Manifest

/-- The entry of a model names a data source. -/
def Names (m : Manifest) (model name : String) : Prop :=
  ∃ c, m.models.lookup model = some (some c) ∧ c.dataSource = some name

/-- The entry of a model has a type, which is not empty. -/
def IsTyped (m : Manifest) (model : String) : Prop :=
  ∃ c type, m.models.lookup model = some (some c) ∧ c.type = some type ∧ type ≠ ""

/-- Another manifest says the same about a model: it has the same entry for
it, and, unless that has a type, the same data source under the name that
the entry gives. -/
structure SameFor (m : Manifest) (model : String) (n : Manifest) : Prop where
  entry : n.models.lookup model = m.models.lookup model
  source : ¬ m.IsTyped model → ∀ name, m.Names model name → n.dataSource? name = m.dataSource? name

/-- **The step looks at nothing else.** -/
theorem SameFor.inferClass_eq {m n : Manifest} {model : String} (h : m.SameFor model n)
    (d : Derivation) : n.inferClass model d = m.inferClass model d := by
  unfold inferClass
  rw [← models, ← models, h.entry]
  dsimp only
  cases htype : (m.models.lookup model).join.bind fun c => nonEmpty? c.type with
  | some type => rfl
  | none =>
    cases hname : (m.models.lookup model).join.bind fun c => nonEmpty? c.dataSource with
    | none => rfl
    | some name =>
      have huntyped : ¬ m.IsTyped model := by
        rintro ⟨c, type, hc, hctype, hne⟩
        simp [hc, TargetView.nonEmpty?_eq_some_iff.mpr ⟨hctype, hne⟩] at htype
      have hnames : m.Names model name := by
        obtain ⟨c, hc, hcname⟩ := Option.bind_eq_some_iff.mp hname
        exact ⟨c, Option.join_eq_some_iff.mp hc, (TargetView.nonEmpty?_eq_some_iff.mp hcname).1⟩
      dsimp only
      rw [h.source huntyped name hnames]

end Manifest

/-- **A model has a class or a warning, and its own entry decides.** For any
manifest, any model, declared or not, and any outcome so far: there is no
class just if one warning is noted, and a class with a name just if none is;
nothing else changes in the outcome. The answer is the same in every
manifest that says the same about the model. So other models may be
anything, so may data sources that its entry does not name, and whatever
else the UI section holds; and all data sources may be, if the model has a
type. -/
theorem inferClass_settled_by_own_entry (m : Manifest) (model : String) (d : Derivation) :
    let answer := m.inferClass model d
    (∃ ws, answer.2 = d.noting ws ∧ (∀ w ∈ ws, w.severity = .warn) ∧
      (answer.1 = none ↔ ws.length = 1) ∧
      ((∃ type, answer.1 = some type ∧ type ≠ "") ↔ ws.length = 0)) ∧
    (∀ n, m.SameFor model n → n.inferClass model d = answer) ∧
    (∀ models, (models.getD []).lookup model = m.models.lookup model →
      { m with ui := { m.ui with models := models } }.inferClass model d = answer) ∧
    (∀ sources, (∀ name, m.Names model name →
        (sources.getD []).lookup name = m.dataSource? name) →
      { m with app := { dataSources := sources } }.inferClass model d = answer) ∧
    (∀ ui, ui.models = m.ui.models → { m with ui := ui }.inferClass model d = answer) ∧
    (m.IsTyped model → ∀ app, { m with app := app }.inferClass model d = answer) := by
  intro answer
  have hsame : ∀ n, m.SameFor model n → n.inferClass model d = answer :=
    fun n h => h.inferClass_eq d
  refine ⟨(m.settled_inferClass model d).accounts, hsame, ?_, ?_, ?_, ?_⟩
  · intro models hmodels
    exact hsame _ ⟨hmodels, fun _ _ _ => rfl⟩
  · intro sources hsources
    exact hsame _ ⟨rfl, fun _ name hname => hsources name hname⟩
  · intro ui hui
    exact hsame _ ⟨by rw [Manifest.models, hui, ← Manifest.models], fun _ _ _ => rfl⟩
  · intro htyped app
    exact hsame _ ⟨rfl, fun huntyped => absurd htyped huntyped⟩

/-- A model on a source of version 4, with a warning noted before. In another
manifest the other model and the other source are gone, and there is a root
view. -/
theorem inferClass_settled_by_own_entry_two :
    let v4 : DataSource := { settings := some { odataVersion := .str "4.0" } }
    let m : Manifest :=
      { app := { dataSources := some [("d", v4), ("e", {})] }
        ui := { models := some [("n", none), ("m", some { dataSource := some "d" })] } }
    let n : Manifest :=
      { app := { dataSources := some [("d", v4)] }
        ui :=
          { models := some [("m", some { dataSource := some "d" })]
            rootView := some (.named "V") } }
    let noted : Derivation :=
      { rule := modelRuleName
        diagnostics := [warning modelRuleName .modelTypeUndefined [("model", .str "n")]] }
    m.SameFor "m" n ∧ m.inferClass "m" noted = (some odataV4Model, noted) ∧
      n.inferClass "m" noted = m.inferClass "m" noted := by
  intro v4 m n noted
  have hsame : m.SameFor "m" n := by
    refine ⟨rfl, fun _ name hname => ?_⟩
    obtain ⟨c, hc, hname⟩ := hname
    cases hc
    cases hname
    rfl
  obtain ⟨-, hlocal, -⟩ := inferClass_settled_by_own_entry m "m" noted
  exact ⟨hsame, rfl, hlocal n hsame⟩

end ManifestDeps
