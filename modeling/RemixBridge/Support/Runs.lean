import Mathlib.Data.List.Basic

/-!
# Support — Runs

Runs of a partial step function `step : σ → α → Option σ`, where `none` says that the action is
not enabled, and the rules every model of this development is verified with: an invariant kept
by one step is kept by a run (`run_inv`), the same when each step of the run meets a side condition
at the state it is taken from (`run_inv_along`), an account of whether all steps have met it
(`run_inv_iff`), when two such conditions come to the same
(`along_iff`), what all steps show under an invariant
(`trace_inv`), and a system whose every step another one matches shows an observer nothing the
other does not (`run_sim`).
-/

namespace Runs

variable {σ α : Type*}

/-- The state a list of actions leads to, if each of them is enabled in its turn. -/
def run (step : σ → α → Option σ) : σ → List α → Option σ
  | s, []      => some s
  | s, a :: as => (step s a).bind fun s' => run step s' as

/-- Every step of the run from `s` along `as` meets `C` at the state it is taken from. -/
def Along (step : σ → α → Option σ) (C : σ → α → Prop) : σ → List α → Prop
  | _, []      => True
  | s, a :: as => C s a ∧ ∀ s', step s a = some s' → Along step C s' as

variable {step : σ → α → Option σ}

instance decidableAlong {C : σ → α → Prop} [∀ s a, Decidable (C s a)] :
    (s : σ) → (as : List α) → Decidable (Along step C s as)
  | _, []      => .isTrue trivial
  | s, a :: as =>
      have : Decidable (∀ s', step s a = some s' → Along step C s' as) :=
        match step s a with
        | none    => .isTrue fun s₁ hs => absurd hs (Option.some_ne_none s₁).symm
        | some s₁ =>
            have : Decidable (Along step C s₁ as) := decidableAlong s₁ as
            decidable_of_iff (Along step C s₁ as)
              ⟨fun hrest _ hs => Option.some.inj hs ▸ hrest, fun hrest => hrest s₁ rfl⟩
      inferInstanceAs (Decidable (C s a ∧ _))

@[simp] theorem run_nil (s : σ) : run step s [] = some s := rfl

theorem run_cons {s s' : σ} {a : α} {as : List α} :
    run step s (a :: as) = some s' ↔ ∃ s₁, step s a = some s₁ ∧ run step s₁ as = some s' := by
  simp only [run, Option.bind_eq_some_iff]

theorem run_append {s s' : σ} {as bs : List α} :
    run step s (as ++ bs) = some s' ↔
      ∃ s₁, run step s as = some s₁ ∧ run step s₁ bs = some s' := by
  induction as generalizing s with
  | nil => simp
  | cons a as ih =>
      rw [List.cons_append, run_cons]
      constructor
      · rintro ⟨s₁, h₁, h₂⟩
        obtain ⟨s₂, h₃, h₄⟩ := ih.mp h₂
        exact ⟨s₂, run_cons.mpr ⟨s₁, h₁, h₃⟩, h₄⟩
      · rintro ⟨s₂, h₁, h₂⟩
        obtain ⟨s₁, h₃, h₄⟩ := run_cons.mp h₁
        exact ⟨s₁, h₃, ih.mpr ⟨s₂, h₄, h₂⟩⟩

/-- **The conditional run rule.**  An invariant that a step keeps when it meets `C` holds at the
end of every run whose steps all meet `C`. -/
theorem run_inv_along {C : σ → α → Prop} {I : σ → Prop}
    (hstep : ∀ s a s', I s → C s a → step s a = some s' → I s') {s s' : σ} {as : List α}
    (h₀ : I s) (hC : Along step C s as) (hr : run step s as = some s') : I s' := by
  induction as generalizing s with
  | nil =>
      cases hr
      exact h₀
  | cons a as ih =>
      obtain ⟨s₁, h₁, h₂⟩ := run_cons.mp hr
      exact ih (hstep s a s₁ h₀ hC.1 h₁) (hC.2 s₁ h₁) h₂

/-- **The accounting rule.**  Where each step keeps an account of whether its condition has been met
from the start, so does a run. -/
theorem run_inv_iff {C : σ → α → Prop} {J : σ → Prop → Prop}
    (hstep : ∀ s a s' p, J s p → step s a = some s' → J s' (p ∧ C s a)) {s s' : σ} {as : List α}
    {p : Prop} (h₀ : J s p) (hr : run step s as = some s') :
    J s' (p ∧ Along step C s as) := by
  induction as generalizing s p with
  | nil =>
      cases hr
      rw [Along, and_true]
      exact h₀
  | cons a as ih =>
      obtain ⟨s₁, h₁, h₂⟩ := run_cons.mp hr
      have hiff : (p ∧ Along step C s (a :: as)) ↔ ((p ∧ C s a) ∧ Along step C s₁ as) := by
        rw [Along, ← and_assoc]
        refine and_congr_right fun _ => ⟨fun h => h s₁ h₁, fun h s₂ h₂ => ?_⟩
        rw [h₁] at h₂
        cases h₂
        exact h
      rw [hiff]
      exact ih (hstep s a s₁ p h₀ h₁) h₂

theorem along_true (s : σ) (as : List α) : Along step (fun _ _ => True) s as := by
  induction as generalizing s with
  | nil => trivial
  | cons a as ih => exact ⟨trivial, fun s' _ => ih s'⟩

theorem along_of_forall {C : α → Prop} (s : σ) {as : List α} (h : ∀ a ∈ as, C a) :
    Along step (fun _ a => C a) s as := by
  induction as generalizing s with
  | nil => trivial
  | cons a as ih =>
      exact ⟨h a List.mem_cons_self, fun s' _ => ih s' fun b hb => h b (List.mem_cons_of_mem a hb)⟩

theorem along_mono {C D : σ → α → Prop} (h : ∀ s a, C s a → D s a) {s : σ} {as : List α}
    (hC : Along step C s as) : Along step D s as := by
  induction as generalizing s with
  | nil => trivial
  | cons a as ih => exact ⟨h s a hC.1, fun s' hs' => ih (hC.2 s' hs')⟩

theorem along_append {C : σ → α → Prop} {s : σ} {as bs : List α} :
    Along step C s (as ++ bs) ↔
      Along step C s as ∧ ∀ s', run step s as = some s' → Along step C s' bs := by
  induction as generalizing s with
  | nil =>
      refine ⟨fun h => ⟨trivial, fun s' hs' => ?_⟩, fun h => h.2 s rfl⟩
      cases hs'
      exact h
  | cons a as ih =>
      constructor
      · rintro ⟨ha, has⟩
        refine ⟨⟨ha, fun s₁ h₁ => (ih.mp (has s₁ h₁)).1⟩, fun s' hs' => ?_⟩
        obtain ⟨s₁, h₁, h₂⟩ := run_cons.mp hs'
        exact (ih.mp (has s₁ h₁)).2 s' h₂
      · rintro ⟨⟨ha, has⟩, hbs⟩
        exact ⟨ha, fun s₁ h₁ => ih.mpr ⟨has s₁ h₁, fun s' hs' =>
          hbs s' (run_cons.mpr ⟨s₁, h₁, hs'⟩)⟩⟩

/-- **The equivalence rule.**  Where one condition keeps an invariant under which another is
equivalent to it, the runs whose steps all meet the one are those whose steps all meet the other. -/
theorem along_iff {C D : σ → α → Prop} {I : σ → Prop} (hiff : ∀ s a, I s → (C s a ↔ D s a))
    (hstep : ∀ s a s', I s → D s a → step s a = some s' → I s') {s : σ} (h₀ : I s)
    (as : List α) : Along step C s as ↔ Along step D s as := by
  induction as generalizing s with
  | nil => exact Iff.rfl
  | cons a as ih =>
      constructor
      · rintro ⟨hC, has⟩
        have hD : D s a := (hiff s a h₀).mp hC
        exact ⟨hD, fun s' hs' => (ih (hstep s a s' h₀ hD hs')).mp (has s' hs')⟩
      · rintro ⟨hD, has⟩
        exact ⟨(hiff s a h₀).mpr hD,
          fun s' hs' => (ih (hstep s a s' h₀ hD hs')).mpr (has s' hs')⟩

/-- **The run rule.**  An invariant that every step keeps holds at the end of every run. -/
theorem run_inv {I : σ → Prop} (hstep : ∀ s a s', I s → step s a = some s' → I s')
    {s s' : σ} {as : List α} (h₀ : I s) (hr : run step s as = some s') : I s' :=
  run_inv_along (fun s a s' hI _ => hstep s a s' hI) h₀ (along_true s as) hr

/-! ### What an observer sees -/

/-- What a run shows: `obs s a` is what the step from `s` by `a` shows, if anything. -/
def trace {ω : Type*} (step : σ → α → Option σ) (obs : σ → α → List ω) : σ → List α → List ω
  | _, []      => []
  | s, a :: as => obs s a ++ (step s a).elim [] fun s' => trace step obs s' as

section trace

variable {ω : Type*} {obs : σ → α → List ω}

@[simp] theorem trace_nil (s : σ) : trace step obs s [] = [] := rfl

theorem trace_cons {s s₁ : σ} {a : α} (as : List α) (h : step s a = some s₁) :
    trace step obs s (a :: as) = obs s a ++ trace step obs s₁ as := by
  rw [trace, h, Option.elim_some]

theorem trace_append {s s₁ : σ} {as : List α} (bs : List α) (h : run step s as = some s₁) :
    trace step obs s (as ++ bs) = trace step obs s as ++ trace step obs s₁ bs := by
  induction as generalizing s with
  | nil =>
      cases h
      rfl
  | cons a as ih =>
      obtain ⟨s₂, h₁, h₂⟩ := run_cons.mp h
      rw [List.cons_append, trace_cons _ h₁, trace_cons _ h₁, ih h₂, List.append_assoc]

/-- **The observation rule.**  What holds of all a step shows, when it is taken from a state that
meets an invariant, holds of all a run shows. -/
theorem trace_inv {I : σ → Prop} {P : ω → Prop}
    (hstep : ∀ s a s', I s → step s a = some s' → I s')
    (hobs : ∀ s a s', I s → step s a = some s' → ∀ o ∈ obs s a, P o)
    {s s' : σ} {as : List α} (h₀ : I s) (hr : run step s as = some s') :
    ∀ o ∈ trace step obs s as, P o := by
  induction as generalizing s with
  | nil => exact nofun
  | cons a as ih =>
      intro o ho
      obtain ⟨s₁, h₁, h₂⟩ := run_cons.mp hr
      rw [trace_cons as h₁] at ho
      rcases List.mem_append.mp ho with ho | ho
      · exact hobs s a s₁ h₀ h₁ o ho
      · exact ih (hstep s a s₁ h₀ h₁) h₂ o ho

/-- **The matching rule.**  Where each step of one system is matched by actions of another that
show the same and meet `P`, every run is. -/
theorem run_sim {τ β : Type*} {step' : τ → β → Option τ} {obs' : τ → β → List ω} {P : β → Prop}
    {R : σ → τ → Prop}
    (hstep : ∀ s t a s', R s t → step s a = some s' → ∃ bs t', run step' t bs = some t' ∧
      (∀ b ∈ bs, P b) ∧ trace step' obs' t bs = obs s a ∧ R s' t')
    {s s' : σ} {t : τ} {as : List α} (h₀ : R s t) (hr : run step s as = some s') :
    ∃ bs t', run step' t bs = some t' ∧ (∀ b ∈ bs, P b) ∧
      trace step' obs' t bs = trace step obs s as ∧ R s' t' := by
  induction as generalizing s t with
  | nil =>
      cases hr
      exact ⟨[], t, rfl, nofun, rfl, h₀⟩
  | cons a as ih =>
      obtain ⟨s₁, h₁, h₂⟩ := run_cons.mp hr
      obtain ⟨bs₁, t₁, hrun₁, hP₁, htrace₁, hR₁⟩ := hstep s t a s₁ h₀ h₁
      obtain ⟨bs₂, t₂, hrun₂, hP₂, htrace₂, hR₂⟩ := ih hR₁ h₂
      refine ⟨bs₁ ++ bs₂, t₂, run_append.mpr ⟨t₁, hrun₁, hrun₂⟩, ?_, ?_, hR₂⟩
      · rintro b hb
        exact (List.mem_append.mp hb).elim (hP₁ b) (hP₂ b)
      · rw [trace_append bs₂ hrun₁, trace_cons as h₁, htrace₁, htrace₂]

/-- **The conditional matching rule.**  The same for the runs whose steps all meet `C`, with the
matching actions left open. -/
theorem run_sim_along {τ β : Type*} {step' : τ → β → Option τ} {obs' : τ → β → List ω}
    {C : σ → α → Prop} {R : σ → τ → Prop}
    (hstep : ∀ s t a s', R s t → C s a → step s a = some s' → ∃ bs t', run step' t bs = some t' ∧
      trace step' obs' t bs = obs s a ∧ R s' t')
    {s s' : σ} {t : τ} {as : List α} (h₀ : R s t) (hC : Along step C s as)
    (hr : run step s as = some s') :
    ∃ bs t', run step' t bs = some t' ∧ trace step' obs' t bs = trace step obs s as ∧ R s' t' := by
  induction as generalizing s t with
  | nil =>
      cases hr
      exact ⟨[], t, rfl, rfl, h₀⟩
  | cons a as ih =>
      obtain ⟨s₁, h₁, h₂⟩ := run_cons.mp hr
      obtain ⟨bs₁, t₁, hrun₁, htrace₁, hR₁⟩ := hstep s t a s₁ h₀ hC.1 h₁
      obtain ⟨bs₂, t₂, hrun₂, htrace₂, hR₂⟩ := ih hR₁ (hC.2 s₁ h₁) h₂
      refine ⟨bs₁ ++ bs₂, t₂, run_append.mpr ⟨t₁, hrun₁, hrun₂⟩, ?_, hR₂⟩
      rw [trace_append bs₂ hrun₁, trace_cons as h₁, htrace₁, htrace₂]

end trace

/-! ### Two systems side by side -/

/-- **The simulation rule.**  Two total systems that the same action keeps related, when it meets
`C`, stay related along every run whose actions all meet `C`. -/
theorem foldl_sim_along {τ : Type*} {f : σ → α → σ} {g : τ → α → τ} {C : σ → α → Prop}
    {R : σ → τ → Prop} (hstep : ∀ s t a, R s t → C s a → R (f s a) (g t a)) {s : σ} {t : τ}
    {as : List α} (h₀ : R s t) (hC : Along (fun s a => some (f s a)) C s as) :
    R (as.foldl f s) (as.foldl g t) := by
  induction as generalizing s t with
  | nil => exact h₀
  | cons a as ih => exact ih (hstep s t a h₀ hC.1) (hC.2 _ rfl)

/-- **The refinement rule.**  A partial system whose steps keep it related to a total one, where the
total one's state meets `C`, stays related to it along every run of its own. -/
theorem run_refines {τ : Type*} {g : τ → α → τ} {C : τ → α → Prop} {R : σ → τ → Prop}
    (hstep : ∀ s t a s', R s t → C t a → step s a = some s' → R s' (g t a)) {s s' : σ} {t : τ}
    {as : List α} (h₀ : R s t) (hC : Along (fun t a => some (g t a)) C t as)
    (hr : run step s as = some s') : R s' (as.foldl g t) := by
  induction as generalizing s t with
  | nil =>
      cases hr
      exact h₀
  | cons a as ih =>
      obtain ⟨s₁, h₁, h₂⟩ := run_cons.mp hr
      exact ih (hstep s t a s₁ h₀ hC.1 h₁) (hC.2 _ rfl) h₂

end Runs
