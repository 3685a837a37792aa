import ImportLint.Proofs.Resolution.Candidates

/-!
# Resolution — probes that fail

A search ends at the first probe that finds a file or fails.  So where more probes fail it can
fail, but it cannot find another file, and where no probe fails it finds the first file there is.

* `FileView.Veils`: a view that shows what another one shows, or fails.
* `Veils.firstDecisive`: through such a view a search finds the same, or one of its probes fails.
* `FileView.Calm`: a view in which nothing fails, and `Calm.firstDecisive`, a search in it.
-/

namespace ImportLint

namespace FileView

variable {v v' : FileView}

/-! ### Views that show less -/

/-- `v'` shows what `v` shows, or fails; it shows the same manifests. -/
structure Veils (v' v : FileView) : Prop where
  probe : ∀ p, v'.fileExists p = v.fileExists p ∨ ∃ e, v'.fileExists p = .error e
  load : Manifest.load v' = Manifest.load v

/-- **Through a veil** a search finds the same, or one of its probes fails. -/
theorem Veils.firstDecisive (h : v'.Veils v) (ps : List Path) :
    v'.firstDecisive ps = v.firstDecisive ps ∨
      ∃ p ∈ ps, ∃ e, v'.fileExists p = .error e ∧ v'.firstDecisive ps = .error e := by
  induction ps with
  | nil => exact Or.inl rfl
  | cons p ps ih =>
      obtain hp | ⟨e, he⟩ := h.probe p
      · cases hv : v.fileExists p with
        | error e =>
            exact Or.inr ⟨p, List.mem_cons_self, e, hp.trans hv,
              firstDecisive_cons_of_error v' (hp.trans hv) ps⟩
        | ok found =>
            have hv' := hp.trans hv
            cases found with
            | true =>
                rw [firstDecisive_cons_of_present v' hv', firstDecisive_cons_of_present v hv]
                exact Or.inl rfl
            | false =>
                rw [firstDecisive_cons_of_absent v' hv', firstDecisive_cons_of_absent v hv]
                refine ih.imp_right fun ⟨q, hq, he⟩ => ⟨q, List.mem_cons_of_mem _ hq, he⟩
      · exact Or.inr ⟨p, List.mem_cons_self, e, he, firstDecisive_cons_of_error v' he ps⟩

/-! ### Views without failures -/

/-- Nothing fails but by absence. -/
def Calm (v : FileView) : Prop := ∀ p f, v.stat p = .error f → f.kind.isAbsence = true

theorem Calm.fileExists (h : v.Calm) (p : Path) : v.fileExists p = .ok (v.isFile p) := by
  unfold FileView.fileExists FileView.isFile
  cases hs : v.stat p with
  | ok s => rfl
  | error f => exact if_pos (h p f hs)

/-- A view is calm if no probe fails. -/
theorem calm_of_fileExists (h : ∀ p e, v.fileExists p ≠ .error e) : v.Calm := by
  intro p f hs
  cases ha : f.kind.isAbsence with
  | true => rfl
  | false =>
      refine absurd ?_ (h p (.stat p f))
      rw [FileView.fileExists, hs]
      exact if_neg (by simp [ha])

/-- **A search in a calm view** finds the first file there is. -/
theorem Calm.firstDecisive (h : v.Calm) (ps : List Path) :
    v.firstDecisive ps = .ok (ps.find? v.isFile) := by
  induction ps with
  | nil => rfl
  | cons p ps ih =>
      have hp := h.fileExists p
      cases hf : v.isFile p with
      | true =>
          rw [List.find?_cons_of_pos hf, firstDecisive_cons_of_present v (hf ▸ hp)]
      | false =>
          rw [List.find?_cons_of_neg (by simp [hf]), firstDecisive_cons_of_absent v (hf ▸ hp), ih]

end FileView

end ImportLint
