/-
# Reports of damage

Whatever bytes a meta page holds, reading it succeeds or reports damage.

* `ReportsDamage` : every error of a computation stands for damage;
* `MetaPage.reportsDamage_decode` : so do those of reading a meta page.
-/
import PagedTables.Page.Meta
import PagedTables.Proofs.Action

namespace PagedTables

/-! ## Computations -/

/-- If the computation fails, it reports damage. -/
def ReportsDamage {α : Type} (r : Except StoreError α) : Prop :=
  ∀ e, r = .error e → e.isDamage = true

namespace ReportsDamage

variable {α β : Type} {r : Except StoreError α} {rest : α → Except StoreError β}

theorem ok (a : α) : ReportsDamage (.ok a) :=
  nofun

theorem damaged (damage : Damage) : ReportsDamage (.error (.damaged damage) : Except _ α) := by
  intro e h
  injection h with he
  rw [← he]
  rfl

theorem bind (h : ReportsDamage r) (hrest : ∀ a, ReportsDamage (rest a)) :
    ReportsDamage (r >>= rest) := by
  intro e he
  rcases Except.bind_eq_error_iff.mp he with hr | ⟨a, -, ha⟩
  · exact h e hr
  · exact hrest a e ha

theorem ite {c : Prop} [Decidable c] {r' : Except StoreError α} (h : ReportsDamage r)
    (h' : ReportsDamage r') : ReportsDamage (if c then r else r') := by
  split
  · exact h
  · exact h'

/-- Where there is no result, damage is reported. -/
theorem exists_error (h : ReportsDamage r) (hnone : ∀ a, r ≠ .ok a) :
    ∃ e, r = .error e ∧ e.isDamage = true := by
  obtain ⟨e, he⟩ := Except.exists_error_iff.mpr hnone
  exact ⟨e, he, h e he⟩

end ReportsDamage

/-! ## The meta page -/

/-- A page size that cannot be read off a file is damage. -/
theorem reportsDamage_recordedPageSize (file : Bytes) : ReportsDamage (recordedPageSize file) :=
  .ite (.damaged _) (.ite (.damaged _) (.ite (.ok _) (.damaged _)))

namespace MetaPage

theorem reportsDamage_checkNode (m : MetaPage) (node : UInt64) :
    ReportsDamage (m.checkNode node) :=
  .ite (.damaged _) (.ok _)

/-- A meta page that contradicts itself is damaged. -/
theorem reportsDamage_check (m : MetaPage) : ReportsDamage m.check := by
  have hrest : ReportsDamage (do
      m.checkNode m.headPage
      m.checkNode m.tailPage
      if m.pageCount ≤ m.dataHead then
        throw (.damaged (.dataHeadOutOfBounds m.dataHead.toNat))) :=
    (m.reportsDamage_checkNode _).bind fun _ =>
      (m.reportsDamage_checkNode _).bind fun _ => .ite (.damaged _) (.ok _)
  exact .ite (.damaged _) hrest

theorem reportsDamage_decode (page : Bytes) : ReportsDamage (decode page) := by
  refine .ite (.damaged _) (.ite (.damaged _) (.ite ?_ ?_))
  · intro e h
    injection h with he
    rw [← he]
    rfl
  · intro e h
    exact reportsDamage_check _ e (Except.map_eq_error_iff.mp h)

end MetaPage

end PagedTables
