import CodeAtlas.Proofs.Marks
import CodeAtlas.Proofs.Turns

/-! # Two runs at a time

Two runs over one subject take turns at the store. To read what a subject is and to write that it is
being analyzed are two requests, between which the other run may read. So it is the first report of
a run that keeps the other one out: from there until the run is over, the other run is rejected when
it reads the subject, and writes nothing; a run that reads earlier is not. -/
namespace CodeAtlas

lemma Store.Answers.eq_of_not_stored {s s' : Store} {now : Int} {o : Store.Operation}
    {r : Except StoreError o.Result} (h : s.Answers now o r s')
    (known : ∀ name rootPath, o ≠ .registerSubject name rootPath)
    (unstored : ¬ Event.IsStored ⟨o, r, s'⟩) : s' = s := by
  cases r with
  | error e => exact h.eq_of_error known
  | ok a =>
    have reads : o.table? = none := by
      by_contra writes
      exact unstored ⟨Option.isSome_iff_ne_none.2 writes, rfl⟩
    exact h.eq_of_reads reads

namespace Analysis

open Inference (Services)

section

variable {disk : Disk} {services : Services} {id : Int} {options : AnalysisOptions}

/-! ## The start of a run -/

/-- What a run does once it was answered what its subject is. -/
def afterLoad (disk : Disk) (services : Services) (id : Int) (options : AnalysisOptions) :
    Except StoreError (Option Subject) → Program (Except AnalysisError SubjectStats)
  | .error e => .done (.error (.failed .loadSubject e))
  | .ok none => .done (.error (.subjectNotFound id))
  | .ok (some subject) =>
      if subject.status.isBusy && !options.force then .done (.error (.inProgress id subject.status))
      else (tryCatch (stages disk services subject options) fun e => do
        recordFailure id e
        throw e : Task SubjectStats).run

lemma run_eq_perform : (run disk services id options).run =
    .perform (.getSubject id) (afterLoad disk services id options) := by
  refine congrArg (Program.perform _) (funext fun found => ?_)
  obtain e | _ | subject := found
  · rfl
  · rfl
  · change ((if _ then _ else _ : Task Subject) >>= _ : Task SubjectStats).run = _
    simp only [afterLoad]
    split <;> rfl

lemma afterLoad_busy {subject : Subject} (busy : subject.status.isBusy = true)
    (unforced : options.force = false) :
    afterLoad disk services id options (.ok (some subject)) =
      .done (.error (.inProgress id subject.status)) := by
  simp [afterLoad, busy, unforced]

lemma afterLoad_analyzing (disk : Disk) (services : Services) (id : Int)
    (unforced : options.force = false) {subject : Subject} (analyzing : subject.status = .analyzing)
    {r : Except StoreError (Option Subject)}
    (answered : ∀ found, r = .ok found → found = some subject) : ∃ result,
    afterLoad disk services id options r = .done result ∧
      (r.isOk = true → result = .error (.inProgress id .analyzing)) ∧
      (r.isOk = false → ∃ e, result = .error (.failed .loadSubject e)) := by
  cases r with
  | error e => exact ⟨_, rfl, nofun, fun _ => ⟨e, rfl⟩⟩
  | ok found =>
    obtain rfl := answered found rfl
    have busy : subject.status.isBusy = true := by rw [analyzing]; rfl
    refine ⟨_, afterLoad_busy busy unforced, fun _ => ?_, nofun⟩
    rw [analyzing]

lemma exists_report (disk : Disk) (services : Services) (id : Int) (options : AnalysisOptions)
    {subject : Subject} (free : subject.status.isBusy = false) : ∃ next,
    afterLoad disk services id options (.ok (some subject)) =
        .perform (.updateStatus subject.id .analyzing (some 0) (some "Starting analysis...")) next ∧
      (next (.ok ())).Pending := by
  simp only [afterLoad, free, Bool.false_and, Bool.false_eq_true, if_false]
  exact ⟨_, rfl, trivial⟩

/-! ## A run that is alone -/

variable {w v : World} {p : Program (Except AnalysisError SubjectStats)}

lemma stands_of_stored (fresh : w.trace = [])
    (steps : (run disk services id options).run.Steps w p v) (left : p.Pending)
    (stored : ∃ e ∈ v.trace, e.IsStored) :
    ∃ q, v.store.Stands id .analyzing q := by
  obtain ⟨o, underway⟩ := (steps.ensures (run_ensures fresh).ensures).of_pending left
  obtain ⟨-, unstored⟩ | stands := underway
  · obtain ⟨e, he, stored⟩ := stored
    exact absurd stored (unstored e he)
  · exact stands

lemma eq_of_unstored (fresh : w.trace = []) (steps : (run disk services id options).run.Steps w p v)
    (unstored : ∀ e ∈ v.trace, ¬ e.IsStored) : v.store = w.store := by
  obtain ⟨⟨last, tree⟩, loaded⟩ := w.store.exists_of_getSubject id fun subject =>
    (subject.lastAnalyzedAt,
      filesAt disk subject.rootPath ⟨options.maxDepth, options.maxFileBytes⟩)
  have asked : EnsuresOr _ _ _ (run disk services id options) w :=
    run_requests fresh fun subject found => Prod.mk.inj (loaded subject found)
  let Untouched (u : World) : Prop := (∀ e ∈ u.trace, ¬ e.IsStored) → u.store = w.store
  have kept := asked.keep (J := Untouched) (fun _ => rfl) (fun u t h _ => h)
    fun u o t r s h asks _ answers unstored => by
      have before := h fun e he => unstored e (List.mem_append_left _ he)
      have same := answers.eq_of_not_stored (asks_known (asks o rfl))
        (unstored _ (List.mem_append_right _ (List.mem_singleton_self _)))
      exact same.trans before
  have always : EnsuresOr (fun u _ => Untouched u) (fun _ u => Untouched u) (fun _ u => Untouched u)
      (run disk services id options) w :=
    (kept.mono (fun _ _ h => h.2) fun _ _ h => h.2).weaken fun _ _ h => h.2
  exact always.of_steps steps unstored

end

/-! ## Two runs in turns -/

section

variable {disk : Bool → Disk} {services : Bool → Services} {id : Int}
  {options : Bool → AnalysisOptions} {s : Store} {t : Int}

abbrev RunScene := Scene Bool fun _ => Except AnalysisError SubjectStats

/-- Two runs over one subject that have not begun, each with its own view of the working tree. -/
def twoRuns (disk : Bool → Disk) (services : Bool → Services) (id : Int)
    (options : Bool → AnalysisOptions) (s : Store) (t : Int) : RunScene where
  left i := (run (disk i) (services i) id (options i)).run
  store := s
  time := t

variable {S : RunScene} {a : Bool} {front rest : List (Bool × Event)} {load : Event}

lemma mem_front (first : ∀ e, (!a, e) ∉ front) {e : Event} :
    e ∈ front.map Prod.snd ↔ (a, e) ∈ front := by
  constructor
  · intro he
    obtain ⟨⟨i, _⟩, mem, rfl⟩ := List.mem_map.1 he
    obtain rfl : i = a := by
      by_contra other
      exact first _ (Bool.eq_not.2 other ▸ mem)
    exact mem
  · exact fun he => List.mem_map.2 ⟨(a, e), he, rfl⟩

/-- The first that a run asks is its subject. Until then, the other run is alone. -/
lemma exists_load (turns : Scene.Turns (twoRuns disk services id options s t) S)
    (split : S.log = front ++ (!a, load) :: rest) (first : ∀ e, (!a, e) ∉ front) :
    ∃ (S₁ S₂ : RunScene) (r : Except StoreError (Option Subject)),
      load = ⟨.getSubject id, r, S₁.store⟩ ∧ S₁.log = front ∧ S₁.Turns S ∧
      (run (disk a) (services a) id (options a)).run.Steps ⟨s, t, []⟩ (S₁.left a)
        ⟨S₁.store, S₁.time, front.map Prod.snd⟩ ∧
      (∀ found, r = .ok found → S₁.store.getSubject id = .ok found) ∧
      S₂.left (!a) = afterLoad (disk !a) (services !a) id (options !a) r ∧
      S₂.log = front ++ [(!a, load)] ∧ S₂.Turns S := by
  obtain ⟨S₁, S₂, before, hfront, turn, hload, after⟩ := turns.split rfl split
  have silent : ∀ j, j ≠ a → ∀ e, (j, e) ∉ S₁.log := by
    intro j hj
    rw [Bool.eq_not.2 hj, hfront]
    exact first
  have alone := before.alone (i := a) rfl (fun j _ => ⟨_, _, run_eq_perform⟩) silent
  have still := before.unmoved (i := !a) run_eq_perform (List.nil_append _).symm
    (silent (!a) (by simp))
  have whole := turn
  obtain @⟨j, q, v, step⟩ := turn
  have asked : v.trace.map (fun e => (j, e)) = [(!a, load)] :=
    List.append_cancel_left (hload.trans (by rw [hfront]))
  obtain rfl : j = !a := by
    obtain ⟨e, -, he⟩ := List.mem_map.1 (asked ▸ List.mem_singleton_self (!a, load))
    exact (Prod.ext_iff.1 he).1
  rw [still] at step
  cases step with
  | @perform _ _ _ t' r s' later answers =>
    obtain rfl := answers.eq_of_reads rfl
    cases asked
    refine ⟨S₁, _, r, rfl, hfront, after.head whole, ?_, ?_, Scene.after_left_self, hload, after⟩
    · rw [← hfront]
      exact alone
    · rintro found rfl
      exact congrArg Prod.fst answers.eq_perform

/-- From the first report of a run until it is over, an unforced run over its subject is rejected
when it reads what the subject is, and writes nothing. One that reads before that report goes on. -/
theorem run_excludes (unforced : ∀ i, (options i).force = false)
    (turns : Scene.Turns (twoRuns disk services id options s t) S)
    (split : S.log = front ++ (!a, load) :: rest) (first : ∀ e, (!a, e) ∉ front) :
    load.operation = .getSubject id ∧
    ((∃ e, (a, e) ∈ front ∧ e.IsStored) → S.RunsOn a rest →
      (load.answer.isOk = true → S.left (!a) = .done (.error (.inProgress id .analyzing))) ∧
      (load.answer.isOk = false → ∃ e, S.left (!a) = .done (.error (.failed .loadSubject e))) ∧
      ∀ e, (!a, e) ∈ S.log → e = load ∧ ¬ e.IsStored) ∧
    ((∀ e, (a, e) ∈ front → ¬ e.IsStored) → ∀ subject, s.getSubject id = .ok (some subject) →
      subject.status.isBusy = false → load.answer.isOk = true → S.RunsOn (!a) rest) := by
  obtain ⟨S₁, S₂, r, rfl, hfront, before, alone, answered, next, hload, after⟩ :=
    exists_load turns split first
  have split₁ : S.log = S₁.log ++ (!a, ⟨.getSubject id, r, S₁.store⟩) :: rest := hfront ▸ split
  have split₂ : S.log = S₂.log ++ rest := by
    rw [split, hload, List.append_assoc, List.singleton_append]
  refine ⟨rfl, fun ⟨e, he, stored⟩ on => ?_, fun unstored subject found free ok => ?_⟩
  · have pending : (S₁.left a).Pending :=
      before.pending_of_runsOn split₁ (on.imp_right fun ⟨e, he⟩ => ⟨e, List.mem_cons_of_mem _ he⟩)
    obtain ⟨q, subject, found, analyzing, -⟩ :=
      stands_of_stored rfl alone pending ⟨e, (mem_front first).2 he, stored⟩
    obtain ⟨result, ends, rejected, unread⟩ :=
      afterLoad_analyzing (disk !a) (services !a) id (unforced !a) analyzing fun loaded h =>
        Except.ok.inj ((answered loaded h).symm.trans found)
    obtain ⟨still, more, hmore, silent⟩ := after.done (next.trans ends)
    refine ⟨fun ok => rejected ok ▸ still, fun failed => ?_, fun e he => ?_⟩
    · obtain ⟨e, rfl⟩ := unread failed
      exact ⟨e, still⟩
    · rw [hmore, hload, List.mem_append, List.mem_append] at he
      obtain (he | he) | he := he
      · exact absurd he (first e)
      · cases List.mem_singleton.1 he
        exact ⟨rfl, fun stored => by cases stored.1⟩
      · exact absurd he (silent e)
  · have same : S₁.store = s :=
      eq_of_unstored rfl alone fun e he => unstored e ((mem_front first).1 he)
    cases r with
    | error e => cases ok
    | ok loaded =>
      obtain rfl : loaded = some subject :=
        Except.ok.inj ((answered loaded rfl).symm.trans (same ▸ found))
      obtain ⟨more, goes, -⟩ := exists_report (disk !a) (services !a) id (options !a) free
      by_contra off
      have still := after.unmoved (next.trans goes) split₂ fun e he => off (.inr ⟨e, he⟩)
      refine off (.inl ?_)
      rw [still]
      trivial

end

section Example

/-- Two runs over a subject that is new. -/
def newRuns : RunScene :=
  twoRuns (fun _ => letterTree) (fun _ => .offline 2) 1 (fun _ => {}) newSubject 0

/-- That subject, once a run over it has begun. -/
def begun : Store :=
  { newSubject with
    subjects := newSubject.subjects.set 1 { Store.SubjectRow.new "tree" "/" 0 with
      status := Store.subjectStatus.write .analyzing
      statusMessage := some "Starting analysis..." } }

/-- What begins it. -/
def firstReport : Event :=
  ⟨.updateStatus 1 .analyzing (some 0) (some "Starting analysis..."), .ok (), begun⟩

lemma newSubject_free : ∃ subject, newSubject.getSubject 1 = .ok (some subject) ∧ subject.id = 1 ∧
    subject.status.isBusy = false :=
  ⟨_, rfl, rfl, rfl⟩

/-- Both runs read the subject before either reports, and then both write. -/
theorem runs_overlap : ∃ S, newRuns.Turns S ∧
    (∃ subject, newSubject.getSubject 1 = .ok (some subject) ∧ subject.status.isBusy = false) ∧
    ∀ i, (S.left i).Pending ∧ ∃ e, (i, e) ∈ S.log ∧ e.IsStored := by
  obtain ⟨subject, found, hid, free⟩ := newSubject_free
  obtain ⟨next, goes, pending⟩ := exists_report letterTree (.offline 2) 1 {} free
  rw [hid] at goes
  have read : newSubject.Answers 0 (.getSubject 1) (.ok (some subject)) newSubject :=
    .of_perform (Prod.ext found rfl)
  have report : newSubject.Answers 0 firstReport.operation (.ok ()) begun := .of_perform rfl
  have again : begun.Answers 0 firstReport.operation (.ok ()) begun := .of_perform rfl
  have start : newRuns.Turns newRuns := .refl
  have read₁ := start.ask (i := true) run_eq_perform (Int.le_refl 0) read
  have read₂ := read₁.ask (i := false) run_eq_perform (Int.le_refl 0) read
  have report₁ := read₂.ask (i := true) goes (Int.le_refl 0) report
  have report₂ := report₁.ask (i := false) goes (Int.le_refl 0) again
  refine ⟨_, report₂, ⟨subject, found, free⟩, fun i => ?_⟩
  cases i with
  | false => exact ⟨pending, firstReport, by simp [Scene.after, firstReport], rfl, rfl⟩
  | true => exact ⟨pending, firstReport, by simp [Scene.after, firstReport], rfl, rfl⟩

/-- One run has reported before the other reads, and the other is rejected. -/
theorem run_excludes_letterTree : ∃ S, newRuns.Turns S ∧ (S.left true).Pending ∧
    S.left false = .done (.error (.inProgress 1 .analyzing)) ∧
    ∀ e, (false, e) ∈ S.log → ¬ e.IsStored := by
  obtain ⟨subject, found, hid, free⟩ := newSubject_free
  obtain ⟨next, goes, pending⟩ := exists_report letterTree (.offline 2) 1 {} free
  rw [hid] at goes
  have read : newSubject.Answers 0 (.getSubject 1) (.ok (some subject)) newSubject :=
    .of_perform (Prod.ext found rfl)
  have report : newSubject.Answers 0 firstReport.operation (.ok ()) begun := .of_perform rfl
  obtain ⟨busy, found'⟩ : ∃ busy, begun.getSubject 1 = .ok (some busy) := ⟨_, rfl⟩
  have read' : begun.Answers 0 (.getSubject 1) (.ok (some busy)) begun :=
    .of_perform (Prod.ext found' rfl)
  have start : newRuns.Turns newRuns := .refl
  have read₁ := start.ask (i := true) run_eq_perform (Int.le_refl 0) read
  have report₁ := read₁.ask (i := true) goes (Int.le_refl 0) report
  have read₂ := report₁.ask (i := false) run_eq_perform (Int.le_refl 0) read'
  have front : ∀ e, (!true, e) ∉ [(true, ⟨.getSubject 1, .ok (some subject), newSubject⟩),
      (true, firstReport)] := by simp
  obtain ⟨-, excluded, -⟩ := run_excludes (a := true) (fun _ => rfl) read₂ rfl front
  obtain ⟨rejected, -, silent⟩ := excluded
    ⟨firstReport, List.mem_cons_of_mem _ List.mem_cons_self, rfl, rfl⟩ (.inl pending)
  exact ⟨_, read₂, pending, rejected rfl, fun e he => (silent e he).2⟩

end Example

end Analysis

end CodeAtlas
