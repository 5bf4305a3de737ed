import CodeAtlas.Analysis
import CodeAtlas.Proofs.Execution

/-! # Parts of an analysis

What a part ensures, from what its requests do: one request that the analysis needs, and the loops
over commits, files and symbols, which go on whatever the store says. -/
namespace CodeAtlas.Analysis

variable {inv : World → Option Store.Operation → Prop}

theorem need_ensures {step : AnalysisStep} {o : Store.Operation} {ok : o.Result → World → Prop}
    {bad : AnalysisError → World → Prop} {w : World} (pending : inv w (some o))
    (good : ∀ t, w.time ≤ t → ∀ a s, w.store.Answers t o (.ok a) s →
      ok a (w.answered t o (.ok a) s))
    (failed : ∀ t, w.time ≤ t → ∀ e s, w.store.Answers t o (.error e) s →
      bad (.failed step e) (w.answered t o (.error e) s)) :
    EnsuresOr inv ok bad (need step o) w :=
  EnsuresOr.of_request pending good failed

theorem need_gives {step : AnalysisStep} {o : Store.Operation} {w : World} {t : Int} {a : o.Result}
    {s : Store} (later : w.time ≤ t) (h : w.store.perform t o = (.ok a, s)) :
    Gives (need step o) w (.ok a) (w.answered t o (.ok a) s) :=
  .bind (.lift (Program.steps_request later (.of_perform h))) (.refl _ _)

theorem need_gives_error {step : AnalysisStep} {o : Store.Operation} {w : World} {t : Int}
    (e : StoreError) (later : w.time ≤ t) :
    Gives (need step o) w (.error (.failed step e)) (w.answered t o (.error e) w.store) :=
  .bind (.lift (Program.steps_request later (.failed e))) (.refl _ _)

theorem report_gives {subject : Int} {before progress : Nat} {message : String} {w : World}
    {s : Store} (h : w.store.updateStatus w.time subject .analyzing (some (max before progress))
      (some message) = .ok s) :
    Gives (report subject before progress message) w (.ok (max before progress))
      (w.answered w.time (.updateStatus subject .analyzing (some (max before progress))
        (some message)) (.ok ()) s) := by
  refine (need_gives (Int.le_refl _) ?_).bind (.refl _ _)
  rw [Store.perform, h]
  rfl

theorem time_ensures {post : Int → World → Prop} {w : World} (pending : inv w none)
    (h : ∀ t, w.time ≤ t → post t (w.read t)) : Program.time.Ensures inv post w :=
  ⟨pending, h⟩

/-! ## Loops -/

section

variable {subject seenAt : Int}

/-- `J` speaks of the commits that were tried. -/
theorem saveCommits_ensures {J : List Commit → World → Prop} (commits : List Commit)
    (pending : ∀ tried w, ∀ c ∈ commits, J tried w → inv w (some (.writeCommit subject c)))
    (step : ∀ tried w, ∀ c ∈ commits, ∀ t r s, J tried w → w.time ≤ t →
      w.store.Answers t (.writeCommit subject c) r s →
      J (tried ++ [c]) (w.answered t (.writeCommit subject c) r s))
    (tried : List Commit) {w : World} (h : J tried w) :
    (saveCommits subject commits).Ensures inv (fun _ v => J (tried ++ commits) v) w := by
  induction commits generalizing tried w with
  | nil => simpa [saveCommits] using h
  | cons c rest ih =>
    refine Program.ensures_bind.2 (Program.ensures_request.2
      ⟨pending tried w c List.mem_cons_self h, ?_⟩)
    intro t later r s answers
    have next := step tried w c List.mem_cons_self t r s h later answers
    refine Program.ensures_bind.2 (Program.Ensures.mono
      (ih (fun tried w c hc => pending tried w c (List.mem_cons_of_mem _ hc))
        (fun tried w c hc => step tried w c (List.mem_cons_of_mem _ hc)) _ next) fun _ v hv => ?_)
    simpa using hv

/-- What is kept of a file that the store was asked to write. -/
def kept (outline : Outline) : Except StoreError Int → List (Int × Outline)
  | .ok id => [(id, outline)]
  | .error _ => []

/-- `J` speaks of the files that were tried and of what was kept of them. -/
theorem saveFiles_ensures {J : List (SourceFile × Outline) → List (Int × Outline) → World → Prop}
    (files : List (SourceFile × Outline))
    (pending : ∀ tried saved w, ∀ f ∈ files, J tried saved w →
      inv w (some (.writeFile subject f.1 f.2.imports f.2.exports seenAt)))
    (step : ∀ tried saved w, ∀ f ∈ files, ∀ t r s, J tried saved w → w.time ≤ t →
      w.store.Answers t (.writeFile subject f.1 f.2.imports f.2.exports seenAt) r s →
      J (tried ++ [f]) (saved ++ kept f.2 r)
        (w.answered t (.writeFile subject f.1 f.2.imports f.2.exports seenAt) r s))
    (tried : List (SourceFile × Outline)) (saved : List (Int × Outline)) {w : World}
    (h : J tried saved w) :
    (saveFiles subject seenAt files).Ensures inv
      (fun more v => J (tried ++ files) (saved ++ more) v) w := by
  induction files generalizing tried saved w with
  | nil => simpa [saveFiles] using h
  | cons f rest ih =>
    obtain ⟨file, outline⟩ := f
    refine Program.ensures_bind.2 (Program.ensures_request.2
      ⟨pending tried saved w _ List.mem_cons_self h, ?_⟩)
    intro t later r s answers
    have next := step tried saved w _ List.mem_cons_self t r s h later answers
    refine Program.ensures_bind.2 (Program.Ensures.mono
      (ih (fun tried saved w f hf => pending tried saved w f (List.mem_cons_of_mem _ hf))
        (fun tried saved w f hf => step tried saved w f (List.mem_cons_of_mem _ hf)) _ _ next) ?_)
    intro more v hv
    cases r <;> simpa [kept] using hv

/-- `J` speaks of the symbols that were tried. -/
theorem saveSymbols_ensures {J : List (Int × CodeSymbol) → World → Prop}
    (symbols : List (Int × CodeSymbol))
    (pending : ∀ tried w, ∀ y ∈ symbols, J tried w →
      inv w (some (.writeSymbol subject y.1 y.2 seenAt)))
    (step : ∀ tried w, ∀ y ∈ symbols, ∀ t r s, J tried w → w.time ≤ t →
      w.store.Answers t (.writeSymbol subject y.1 y.2 seenAt) r s →
      J (tried ++ [y]) (w.answered t (.writeSymbol subject y.1 y.2 seenAt) r s))
    (tried : List (Int × CodeSymbol)) {w : World} (h : J tried w) :
    (saveSymbols subject seenAt symbols).Ensures inv (fun _ v => J (tried ++ symbols) v) w := by
  induction symbols generalizing tried w with
  | nil => simpa [saveSymbols] using h
  | cons y rest ih =>
    obtain ⟨file, symbol⟩ := y
    refine Program.ensures_bind.2 (Program.ensures_request.2
      ⟨pending tried w _ List.mem_cons_self h, ?_⟩)
    intro t later r s answers
    have next := step tried w _ List.mem_cons_self t r s h later answers
    refine Program.ensures_bind.2 (Program.Ensures.mono
      (ih (fun tried w y hy => pending tried w y (List.mem_cons_of_mem _ hy))
        (fun tried w y hy => step tried w y (List.mem_cons_of_mem _ hy)) _ next) ?_)
    intro _ v hv
    cases r <;> simpa using hv

end

end CodeAtlas.Analysis
