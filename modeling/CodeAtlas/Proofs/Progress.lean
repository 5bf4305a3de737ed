import CodeAtlas.Proofs.Parts
import CodeAtlas.Proofs.Readback
import Mathlib

/-! # Progress

The status and the progress of a subject while it is analyzed, whatever fails. The progress only
grows; a run that fails leaves it where it was; a subject is ready only after the last write. -/
namespace CodeAtlas

/-- The status and the progress that a subject is found with. -/
def Store.Stands (s : Store) (id : Int) (status : SubjectStatus) (progress : Nat) : Prop :=
  ∃ subject, s.getSubject id = .ok (some subject) ∧ subject.status = status ∧
    subject.progress = progress

/-- Something was written. -/
def Event.IsStored (e : Event) : Prop := e.operation.table?.isSome ∧ e.answer.isOk

/-- The progress that was written to a subject. -/
def Event.progress? (id : Int) : Event → Option Nat
  | ⟨.updateStatus i _ (some p) _, .ok _, _⟩ => if i = id then some p else none
  | _ => none

/-- All progress that was written to a subject, in order. -/
def progressOf (id : Int) (trace : List Event) : List Nat := trace.filterMap (Event.progress? id)

namespace Store

variable {s s' : Store} {id now : Int} {subject : Subject}

lemma getSubject_eq_some :
    s.getSubject id = .ok (some subject) ↔
      ∃ row, s.subjects.find? id = some row ∧ row.record id = .ok subject := by
  unfold getSubject
  split
  next missing => simp [missing]
  next row found => simp [found, map_eq_ok]

lemma getSubject_id (h : s.getSubject id = .ok (some subject)) : subject.id = id := by
  obtain ⟨row, -, record⟩ := getSubject_eq_some.1 h
  simp only [SubjectRow.record, bind_eq_ok, pure_eq_ok] at record
  obtain ⟨_, -, _, -, _, -, _, -, _, -, _, -, _, -, _, -, _, -, _, -, rfl⟩ := record
  rfl

lemma getSubject_congr (same : s'.subjects = s.subjects) : s'.getSubject id = s.getSubject id := by
  simp only [getSubject, same]

/-- What is computed of a subject, if it is found. -/
lemma exists_of_getSubject (s : Store) (id : Int) (f : Subject → β) :
    ∃ b, ∀ subject, s.getSubject id = .ok (some subject) → f subject = b := by
  by_cases h : ∃ subject, s.getSubject id = .ok (some subject)
  · obtain ⟨subject, found⟩ := h
    refine ⟨f subject, fun subject' found' => ?_⟩
    cases found.symm.trans found'
    rfl
  · exact ⟨f default, fun subject found => absurd ⟨subject, found⟩ h⟩

/-- What a subject is after its status was set. -/
lemma Answers.getSubject_updated {status : SubjectStatus} {progress : Option Nat}
    {message : Option String}
    (h : s.Answers now (.updateStatus id status progress message) (.ok ()) s')
    (found : s.getSubject id = .ok (some subject)) :
    s'.getSubject id = .ok (some { subject with
      status := status
      progress := (progress.map (min · 100)).getD subject.progress
      statusMessage := message <|> subject.statusMessage }) := by
  obtain ⟨row, hrow, record⟩ := getSubject_eq_some.1 found
  rcases h.updateStatus with ⟨e, he, -⟩ | ⟨-, old, hold, rfl⟩
  · cases he
  · cases hrow.symm.trans hold
    refine getSubject_eq_some.2
      ⟨row.updated now status progress message, ?_, SubjectRow.record_updated record ..⟩
    simp [Table.find?_set, hrow]

/-- What a subject is after its counts were saved. -/
lemma Answers.getSubject_counted {stats : SubjectStats} {analyzedAt : Int}
    (h : s.Answers now (.saveStats id stats analyzedAt) (.ok ()) s')
    (found : s.getSubject id = .ok (some subject)) :
    s'.getSubject id = .ok (some { subject with
      stats :=
        ⟨columnSize stats.totalCommits, columnSize stats.totalFiles,
          columnSize stats.totalFunctions, columnSize stats.totalDependencies, stats.languages⟩
      lastAnalyzedAt := some analyzedAt }) := by
  obtain ⟨row, hrow, record⟩ := getSubject_eq_some.1 found
  rcases h.saveStats with ⟨e, he, -⟩ | ⟨-, ⟨missing, -⟩ | ⟨old, hold, rfl⟩⟩
  · cases he
  · cases hrow.symm.trans missing
  · cases hrow.symm.trans hold
    refine getSubject_eq_some.2
      ⟨row.counted stats analyzedAt, ?_, SubjectRow.record_counted record ..⟩
    simp [Table.find?_set, hrow]

lemma Stands.congr {status : SubjectStatus} {p : Nat} (h : s.Stands id status p)
    (same : s'.subjects = s.subjects) : s'.Stands id status p := by
  obtain ⟨subject, found, rest⟩ := h
  exact ⟨subject, (getSubject_congr same).trans found, rest⟩

lemma Stands.unique {a b : SubjectStatus} {p q : Nat} (h : s.Stands id a p)
    (h' : s.Stands id b q) : a = b := by
  obtain ⟨subject, found, rfl, -⟩ := h
  obtain ⟨subject', found', rfl, -⟩ := h'
  cases found.symm.trans found'
  rfl

end Store

namespace Event

variable {id : Int} {o : Store.Operation} {r : Except StoreError o.Result} {s : Store}

lemma progress?_of_quiet (quiet : o.table? ≠ some .subjects) :
    progress? id ⟨o, r, s⟩ = none := by
  cases o with
  | updateStatus => exact absurd rfl quiet
  | _ => rfl

lemma progress?_of_not_stored {e : Event} (h : ¬ e.IsStored) : e.progress? id = none := by
  obtain ⟨o, r, s⟩ := e
  cases o with
  | updateStatus i status progress message =>
    cases r with
    | ok a => exact absurd ⟨rfl, rfl⟩ h
    | error e => cases progress <;> rfl
  | _ => rfl

lemma not_stored_error {e : StoreError} : ¬ IsStored ⟨o, .error e, s⟩ := fun h => by cases h.2

end Event

namespace Analysis

/-! ## While a subject is analyzed -/

/-- Nothing was written first; from then on a subject is being analyzed. -/
def AnalyzingFrom (id : Int) (trace : List Event) : Prop :=
  ∃ load rest, trace = load :: rest ∧ ¬ load.IsStored ∧
    ∀ e ∈ rest, ∃ q, e.store.Stands id .analyzing q

/-- A subject is being analyzed and has got to `p`, which is the last progress that was written. -/
structure Climbing (id : Int) (p : Nat) (w : World) : Prop where
  most : p ≤ 100
  stands : w.store.Stands id .analyzing p
  analyzing : AnalyzingFrom id w.trace
  climbs : (progressOf id w.trace).Pairwise (· ≤ ·)
  last : (progressOf id w.trace).getLast? = some p

variable {id : Int} {p q : Nat} {w : World} {t : Int} {o : Store.Operation}

lemma AnalyzingFrom.snoc {trace : List Event} {e : Event} (h : AnalyzingFrom id trace)
    (stands : e.store.Stands id .analyzing q) : AnalyzingFrom id (trace ++ [e]) := by
  obtain ⟨load, rest, rfl, unstored, analyzing⟩ := h
  refine ⟨load, rest ++ [e], rfl, unstored, fun e' he => ?_⟩
  rcases List.mem_append.1 he with he | he
  · exact analyzing e' he
  · rw [List.mem_singleton.1 he]
    exact ⟨q, stands⟩

lemma Climbing.le (h : Climbing id p w) : ∀ q ∈ progressOf id w.trace, q ≤ p := by
  have climbs := h.climbs
  obtain ⟨front, split⟩ := List.getLast?_eq_some_iff.1 h.last
  rw [split] at climbs ⊢
  intro q hq
  rcases List.mem_append.1 hq with hq | hq
  · exact (List.pairwise_append.1 climbs).2.2 q hq p (by simp)
  · exact Nat.le_of_eq (List.mem_singleton.1 hq)

lemma progressOf_answered {r : Except StoreError o.Result} {s : Store} :
    progressOf id (w.answered t o r s).trace =
      progressOf id w.trace ++ (Event.progress? id ⟨o, r, s⟩).toList := by
  simp only [progressOf, World.answered, List.filterMap_append]
  cases h : Event.progress? id ⟨o, r, s⟩ <;> simp [h]

lemma progressOf_of_unstored {trace : List Event} (h : ∀ e ∈ trace, ¬ e.IsStored) :
    progressOf id trace = [] :=
  List.filterMap_eq_nil_iff.2 fun e he => Event.progress?_of_not_stored (h e he)

/-- What is written keeps a subject where it is. -/
lemma Climbing.stay (h : Climbing id p w) {r : Except StoreError o.Result} {s : Store}
    (stands : s.Stands id .analyzing p) (silent : Event.progress? id ⟨o, r, s⟩ = none) :
    Climbing id p (w.answered t o r s) := by
  have same : progressOf id (w.answered t o r s).trace = progressOf id w.trace := by
    simp [progressOf_answered, silent]
  exact ⟨h.most, stands, h.analyzing.snoc stands, same ▸ h.climbs, same ▸ h.last⟩

lemma Climbing.fail (h : Climbing id p w) {e : StoreError} :
    Climbing id p (w.answered t o (.error e) w.store) :=
  h.stay h.stands (Event.progress?_of_not_stored Event.not_stored_error)

/-- What does not write subjects keeps a subject where it is. -/
lemma Climbing.quiet (h : Climbing id p w) (quiet : o.table? ≠ some .subjects)
    {r : Except StoreError o.Result} {s : Store} (answers : w.store.Answers t o r s) :
    Climbing id p (w.answered t o r s) :=
  h.stay (h.stands.congr (answers.sameBut.subjects quiet)) (Event.progress?_of_quiet quiet)

/-- A report takes a subject further, or leaves it where it is. -/
lemma Climbing.report (h : Climbing id p w) (most : q ≤ 100) {message : Option String} {s : Store}
    (answers : w.store.Answers t (.updateStatus id .analyzing (some (max p q)) message)
      (.ok ()) s) :
    Climbing id (max p q)
      (w.answered t (.updateStatus id .analyzing (some (max p q)) message) (.ok ()) s) := by
  obtain ⟨subject, found, -, -⟩ := h.stands
  have fits : max p q ≤ 100 := Nat.max_le.2 ⟨h.most, most⟩
  have stands : s.Stands id .analyzing (max p q) :=
    ⟨_, answers.getSubject_updated found, rfl, Nat.min_eq_left fits⟩
  refine ⟨fits, stands, h.analyzing.snoc stands, ?_, by simp [progressOf_answered, Event.progress?]⟩
  simp only [progressOf_answered, Event.progress?, if_true, Option.toList_some]
  refine List.pairwise_append.2 ⟨h.climbs, by simp, fun a ha b hb => ?_⟩
  cases List.mem_singleton.1 hb
  exact Nat.le_trans (h.le a ha) (Nat.le_max_left p q)

/-! ## Stages -/

/-- How the store may be found while an analysis has requests left. -/
def Underway (s₀ : Store) (id : Int) (w : World) (_ : Option Store.Operation) : Prop :=
  (w.store = s₀ ∧ ∀ e ∈ w.trace, ¬ e.IsStored) ∨ ∃ p, w.store.Stands id .analyzing p

/-- Where the stages may be interrupted by a failure. -/
inductive Interrupted (s₀ : Store) (id : Int) (w : World) : Prop
  | unstarted (same : w.store = s₀) (unstored : ∀ e ∈ w.trace, ¬ e.IsStored)
  | climbing (p : Nat) (h : Climbing id p w)

lemma Climbing.underway (h : Climbing id p w) (s₀ : Store) (o : Option Store.Operation) :
    Underway s₀ id w o :=
  .inr ⟨p, h.stands⟩

/-- A part of an analysis takes a subject from a progress to the one that its result tells, or is
interrupted. -/
def Climbs (s₀ : Store) (id : Int) (x : Task α) (p : Nat) (reached : α → Nat) : Prop :=
  ∀ w, Climbing id p w → EnsuresOr (Underway s₀ id) (fun a v => Climbing id (reached a) v)
    (fun _ v => Interrupted s₀ id v) x w

variable {s₀ : Store}

lemma Climbs.bind {x : Task α} {f : α → Task β} {reached : α → Nat} {further : β → Nat}
    (hx : Climbs s₀ id x p reached) (hf : ∀ a, Climbs s₀ id (f a) (reached a) further) :
    Climbs s₀ id (x >>= f) p further :=
  fun w h => (hx w h).bind fun a v hv => hf a v hv

lemma climbs_pure {a : α} {reached : α → Nat} (h : reached a = p) :
    Climbs s₀ id (pure a) p reached := fun _ hw => .of_pure (h ▸ hw)

lemma climbs_lift {x : Program α}
    (h : ∀ w, Climbing id p w → x.Ensures (Underway s₀ id) (fun _ v => Climbing id p v) w) :
    Climbs s₀ id (liftM x) p fun _ => p := fun w hw => .of_lift (h w hw)

lemma climbs_except {x : Except AnalysisError α} : Climbs s₀ id (liftM x) p fun _ => p :=
  fun _ h => .of_except (fun _ _ => h) fun _ _ => .climbing p h

lemma climbs_time : Climbs s₀ id (liftM Program.time) p fun _ => p :=
  climbs_lift fun _ h => time_ensures (h.underway s₀ _) fun _ _ => ⟨h.1, h.2, h.3, h.4, h.5⟩

lemma climbs_report {message : String} (most : q ≤ 100) :
    Climbs s₀ id (report id p q message) p fun reached => reached := by
  intro w h
  refine EnsuresOr.bind (M := fun _ v => Climbing id (max p q) v) ?_ fun _ _ hv => .of_pure hv
  refine need_ensures (h.underway s₀ _) (fun t _ a s answers => h.report most answers) ?_
  intro t _ e s answers
  rcases answers.updateStatus with ⟨e', -, rfl⟩ | ⟨ok, -⟩
  · exact .climbing p h.fail
  · cases ok

lemma climbs_need {step : AnalysisStep} (quiet : o.table? ≠ some .subjects) :
    Climbs s₀ id (need step o) p fun _ => p :=
  fun _ h => need_ensures (h.underway s₀ _) (fun _ _ _ _ answers => h.quiet quiet answers)
    fun _ _ _ _ answers => .climbing p (h.quiet quiet answers)

lemma climbs_saveStats {step : AnalysisStep} {stats : SubjectStats} {analyzedAt : Int} :
    Climbs s₀ id (need step (.saveStats id stats analyzedAt)) p fun _ => p := by
  intro w h
  refine need_ensures (h.underway s₀ _) (fun t _ a s answers => ?_) fun t _ e s answers => ?_
  · obtain ⟨subject, found, status, progress⟩ := h.stands
    exact h.stay ⟨_, answers.getSubject_counted found, status, progress⟩ rfl
  · rcases answers.saveStats with ⟨e', -, rfl⟩ | ⟨ok, -⟩
    · exact .climbing p h.fail
    · cases ok

lemma climbs_commitStage {disk : Disk} {root : String} {options : AnalysisOptions} :
    Climbs s₀ id (commitStage disk root id options p) p fun reached => reached := by
  refine (climbs_report (by decide)).bind fun q => .bind (climbs_lift fun w h => ?_)
    fun _ => climbs_report (by decide)
  exact saveCommits_ensures (J := fun _ v => Climbing id q v) _ (fun _ _ _ _ h => h.underway s₀ _)
    (fun _ _ _ _ _ _ _ h _ answers => h.quiet (by simp) answers) [] h

lemma climbs_fileStage {disk : Disk} {services : Inference.Services} {root : String}
    {lastAnalyzedAt : Option Int} {options : AnalysisOptions} :
    Climbs s₀ id (fileStage disk services root id lastAnalyzedAt options p) p (·.1) := by
  refine (climbs_report (by decide)).bind fun q => climbs_time.bind fun now =>
    climbs_except.bind fun files => .bind (climbs_lift fun w h => ?_) fun saved =>
    (climbs_need (by simp)).bind fun _ => (climbs_report (by decide)).bind fun _ => climbs_pure rfl
  exact saveFiles_ensures (J := fun _ _ v => Climbing id q v) _
    (fun _ _ _ _ _ h => h.underway s₀ _)
    (fun _ _ _ _ _ _ _ _ h _ answers => h.quiet (by simp) answers) [] [] h

lemma climbs_symbolStage {seenAt : Int} {saved : List (Int × Outline)} :
    Climbs s₀ id (symbolStage id seenAt saved p) p fun reached => reached := by
  refine (climbs_report (by decide)).bind fun q => .bind (climbs_lift fun w h => ?_) fun count =>
    (climbs_need (by simp)).bind fun _ => climbs_report (by decide)
  exact saveSymbols_ensures (J := fun _ v => Climbing id q v) _
    (fun _ _ _ _ h => h.underway s₀ _)
    (fun _ _ _ _ _ _ _ h _ answers => h.quiet (by simp) answers) [] h

lemma climbs_edgeStage : Climbs s₀ id (edgeStage id p) p (·.1) :=
  (climbs_report (by decide)).bind fun _ => (climbs_need (by simp)).bind fun _ =>
    (climbs_need (by simp)).bind fun _ => (climbs_need (by simp)).bind fun _ =>
    (climbs_report (by decide)).bind fun _ => climbs_pure rfl

lemma climbs_embeddingStage {services : Inference.Services} {files : List StoredFile}
    {symbols : List StoredSymbol} {options : AnalysisOptions} :
    Climbs s₀ id (embeddingStage services id files symbols options p) p fun reached => reached :=
  (climbs_report (by decide)).bind fun _ => (climbs_need (by simp)).bind fun _ =>
    (climbs_need (by simp)).bind fun _ => climbs_report (by decide)

/-- The last write of an analysis that succeeds, after which a subject is ready. -/
def Finished (id : Int) (v : World) : Prop :=
  ∃ p w t message, Climbing id p w ∧
    v = w.answered t (.updateStatus id .ready (some 100) message) (.ok ()) v.store ∧
    v.store.Stands id .ready 100

lemma finalStage_ensures (h : Climbing id p w) :
    EnsuresOr (Underway s₀ id) (fun _ v => Finished id v) (fun _ v => Interrupted s₀ id v)
      (finalStage id) w := by
  refine (climbs_need (by simp) w h).bind fun stats v hv => (climbs_time v hv).bind fun now v hv =>
    (climbs_saveStats v hv).bind fun _ v hv => ?_
  refine EnsuresOr.bind (M := fun _ v => Finished id v) ?_ fun _ _ h => .of_pure h
  refine need_ensures (hv.underway s₀ _) (fun t _ a s answers => ?_) fun t _ e s answers => ?_
  · obtain ⟨subject, found, -, -⟩ := hv.stands
    exact ⟨p, v, t, _, hv, rfl, _, answers.getSubject_updated found, rfl, rfl⟩
  · rcases answers.updateStatus with ⟨e', -, rfl⟩ | ⟨ok, -⟩
    · exact .climbing p hv.fail
    · cases ok

/-! ## Runs -/

/-- A subject was loaded, and the run may analyze it. -/
def Admitted (w₀ : World) (id : Int) (force : Bool) (subject : Subject) (w : World) : Prop :=
  w.store = w₀.store ∧ w₀.time ≤ w.time ∧
    w.trace = [⟨.getSubject id, .ok (some subject), w₀.store⟩] ∧
    w₀.store.getSubject id = .ok (some subject) ∧ (subject.status.isBusy = true → force = true)

/-- Nothing was done but to ask for the subject, which must not be analyzed as it was answered. -/
def Rejected (s₀ : Store) (id : Int) (force : Bool) (w : World) : Prop :=
  w.store = s₀ ∧ ∃ r, w.trace = [⟨.getSubject id, r, s₀⟩] ∧ ∀ found, r = .ok found →
    s₀.getSubject id = .ok found ∧
      ∀ subject, found = some subject → subject.status.isBusy = true ∧ force = false

lemma subjectToAnalyze_ensures {force : Bool} {inv : World → Option Store.Operation → Prop}
    (h : w.trace = []) (pending : inv w (some (.getSubject id))) :
    EnsuresOr inv (fun subject v => Admitted w id force subject v)
      (fun _ v => Rejected w.store id force v) (subjectToAnalyze id force) w := by
  refine EnsuresOr.bind (M := fun (found : Option Subject) v => v.store = w.store ∧
    w.time ≤ v.time ∧ v.trace = [⟨.getSubject id, .ok found, w.store⟩] ∧
    w.store.getSubject id = .ok found) ?_ ?_
  · refine need_ensures pending (fun t later a s answers => ?_) fun t _ e s answers => ?_
    · cases answers.eq_of_reads rfl
      refine ⟨rfl, later, ?_, congrArg Prod.fst answers.eq_perform⟩
      simp [World.answered, h]
    · cases answers.eq_of_reads rfl
      exact ⟨rfl, .error e, by simp [World.answered, h], fun _ h => by cases h⟩
  · rintro (_ | subject) v ⟨store, later, trace, found⟩
    · refine .of_throw ⟨store, _, trace, fun _ h => ?_⟩
      cases h
      exact ⟨found, fun _ h => by cases h⟩
    · change EnsuresOr _ _ _ (if _ then _ else _) v
      split
      next busy =>
        refine .of_throw ⟨store, _, trace, fun _ h => ?_⟩
        cases h
        refine ⟨found, fun _ h => ?_⟩
        cases h
        simpa using busy
      next free => exact .of_pure ⟨store, later, trace, found, by simpa using free⟩

lemma stages_ensures {disk : Disk} {services : Inference.Services} {options : AnalysisOptions}
    {subject : Subject} {w₀ : World} (h : Admitted w₀ id options.force subject w) :
    EnsuresOr (Underway w₀.store id) (fun _ v => Finished id v)
      (fun _ v => Interrupted w₀.store id v) (stages disk services subject options) w := by
  obtain ⟨store, -, trace, found, -⟩ := h
  rw [← store] at trace found ⊢
  obtain rfl := Store.getSubject_id found
  have unstored : ∀ e ∈ w.trace, ¬ e.IsStored := by
    rw [trace]
    intro e he
    cases List.mem_singleton.1 he
    exact fun stored => by cases stored.1
  refine EnsuresOr.bind (M := fun reached v => Climbing subject.id reached v) ?_ fun _ v hv =>
    (climbs_commitStage v hv).bind fun _ v hv => (climbs_fileStage v hv).bind fun ⟨_, _, _⟩ v hv =>
    (climbs_symbolStage v hv).bind fun _ v hv => (climbs_edgeStage v hv).bind fun ⟨_, _, _⟩ v hv =>
    (climbs_embeddingStage v hv).bind fun _ v hv => finalStage_ensures hv
  refine EnsuresOr.bind (M := fun _ v => Climbing subject.id 0 v) ?_ fun _ _ hv => .of_pure hv
  refine need_ensures (o := .updateStatus subject.id .analyzing (some 0) _) (.inl ⟨rfl, unstored⟩)
    (fun t _ a s answers => ?_) fun t _ e s answers => ?_
  · have stands : s.Stands subject.id .analyzing 0 :=
      ⟨_, answers.getSubject_updated found, rfl, rfl⟩
    have load : AnalyzingFrom subject.id w.trace :=
      ⟨_, [], trace, fun stored => (by cases stored.1), by simp⟩
    refine ⟨Nat.zero_le _, stands, load.snoc stands, ?_, ?_⟩ <;>
      rw [progressOf_answered, progressOf_of_unstored unstored] <;> simp [Event.progress?]
  · rcases answers.updateStatus with ⟨e', -, rfl⟩ | ⟨ok, -⟩
    · refine .unstarted rfl fun e' he' => ?_
      rcases List.mem_append.1 he' with he' | he'
      · exact unstored e' he'
      · cases List.mem_singleton.1 he'
        exact Event.not_stored_error
    · cases ok

/-- There is a subject that may be analyzed. -/
def Admissible (s₀ : Store) (id : Int) (force : Bool) : Prop :=
  ∃ subject, s₀.getSubject id = .ok (some subject) ∧ (subject.status.isBusy = true → force = true)

/-- The stages were interrupted, and then the subject was left in error. -/
def Failed (s₀ : Store) (id : Int) (e : AnalysisError) (v : World) : Prop :=
  ∃ w t r, Interrupted s₀ id w ∧
    w.store.Answers t (.updateStatus id .error none (some e.message)) r v.store ∧
    v = w.answered t (.updateStatus id .error none (some e.message)) r v.store

lemma run_ensures {disk : Disk} {services : Inference.Services} {options : AnalysisOptions}
    (h : w.trace = []) :
    EnsuresOr (Underway w.store id)
      (fun _ v => Admissible w.store id options.force ∧ Finished id v)
      (fun e v => Rejected w.store id options.force v ∨
        Admissible w.store id options.force ∧ Failed w.store id e v)
      (run disk services id options) w := by
  refine EnsuresOr.bind (EnsuresOr.mono (subjectToAnalyze_ensures h (.inl ⟨rfl, by simp [h]⟩))
    (fun _ _ hv => hv) fun _ _ hv => .inl hv) fun subject v hv => ?_
  have admitted := hv
  obtain ⟨-, -, -, found, free⟩ := hv
  obtain rfl := Store.getSubject_id found
  refine EnsuresOr.tryCatch (EnsuresOr.mono (stages_ensures admitted)
    (fun _ u hu => ⟨⟨subject, found, free⟩, hu⟩) fun _ _ hu => hu) fun e u hu => ?_
  have underway : ∀ o, Underway w.store subject.id u o := by
    intro o
    cases hu with
    | unstarted same unstored => exact .inl ⟨same, unstored⟩
    | climbing p h => exact h.underway _ _
  refine EnsuresOr.bind (M := fun _ x => Failed w.store subject.id e x) ?_
    fun _ x hx => .of_throw (.inr ⟨⟨subject, found, free⟩, hx⟩)
  refine .of_lift (Program.ensures_bind.2 (Program.ensures_request.2 ⟨underway _, ?_⟩))
  exact fun t _ r s answers => ⟨u, t, r, hu, answers, rfl⟩

/-- A run that succeeds has loaded its subject and gone through the stages. -/
lemma run_ends {disk : Disk} {services : Inference.Services} {options : AnalysisOptions}
    {ok : Subject → SubjectStats → World → Prop} (fresh : w.trace = [])
    (h : ∀ subject v, Admitted w id options.force subject v → EnsuresOr (fun _ _ => True)
      (ok subject) (fun _ _ => True) (stages disk services subject options) v) :
    EnsuresOr (fun _ _ => True)
      (fun stats v => ∃ subject, w.store.getSubject id = .ok (some subject) ∧ ok subject stats v)
      (fun _ _ => True) (run disk services id options) w := by
  refine EnsuresOr.bind ((subjectToAnalyze_ensures fresh trivial).mono (fun _ _ h => h)
    fun _ _ _ => trivial) fun subject v hv => ?_
  refine EnsuresOr.tryCatch ((h subject v hv).mono (fun _ _ done => ⟨subject, hv.2.2.2.1, done⟩)
    fun _ _ h => h) fun e u _ => ?_
  exact EnsuresOr.bind (M := fun _ _ => True)
    (.of_lift (Program.ensures_trivial (recordFailure id e) u)) fun _ _ _ => .of_throw trivial

/-- What a run makes of the status and the progress of a subject that it may analyze. -/
structure KeepsProgress (id : Int) (before : Subject) (result : Except AnalysisError SubjectStats)
    (v : World) : Prop where
  climbs : (progressOf id v.trace).Pairwise (· ≤ ·)
  ready : ∀ stats, result = .ok stats → v.store.Stands id .ready 100
  closes : ∀ e, result = .error e → ∃ r,
    v.trace.getLast? = some ⟨.updateStatus id .error none (some e.message), r, v.store⟩ ∧
      (r = .ok () → v.store.Stands id .error
        ((progressOf id v.trace).getLast?.getD before.progress))
  notReady : ∀ front e rest, v.trace = front ++ e :: rest → (∃ a ∈ front ++ [e], a.IsStored) →
    (∃ b ∈ rest, b.IsStored) → ∀ p, ¬ e.store.Stands id .ready p

/-- Whatever is written last, before it a subject was not ready since it was written first. -/
lemma Interrupted.notReady {last : Event} (h : Interrupted s₀ id w) {front rest : List Event}
    {e : Event} (split : w.trace ++ [last] = front ++ e :: rest)
    (first : ∃ a ∈ front ++ [e], a.IsStored) (later : ∃ b ∈ rest, b.IsStored) :
    ∀ p, ¬ e.store.Stands id .ready p := by
  obtain ⟨b, hb, -⟩ := later
  obtain ⟨rest, tail, rfl⟩ := (List.eq_nil_or_concat rest).resolve_left (List.ne_nil_of_mem hb)
  have split : w.trace ++ [last] = (front ++ e :: rest) ++ [tail] := by simpa using split
  replace split : w.trace = front ++ e :: rest := (List.append_inj' split rfl).1
  obtain ⟨a, ha, stored⟩ := first
  cases h with
  | unstarted same unstored =>
    refine absurd stored (unstored a ?_)
    rw [split]
    rcases List.mem_append.1 ha with ha | ha
    · exact List.mem_append_left _ ha
    · simp [List.mem_singleton.1 ha]
  | climbing q h =>
    obtain ⟨load, more, trace, unstored, analyzing⟩ := h.analyzing
    rw [trace] at split
    cases front with
    | nil =>
      cases split
      cases List.mem_singleton.1 ha
      exact absurd stored unstored
    | cons load' front =>
      cases split
      obtain ⟨q, stands⟩ := analyzing e (by simp)
      intro p ready
      cases ready.unique stands

lemma Finished.keepsProgress {before : Subject} {stats : SubjectStats} {v : World}
    (h : Finished id v) : KeepsProgress id before (.ok stats) v := by
  obtain ⟨p, w, t, message, climbing, step, ready⟩ := h
  have trace := congrArg World.trace step
  refine ⟨?_, fun _ _ => ready, nofun, fun front e rest split first later => ?_⟩
  · rw [trace, progressOf_answered]
    simp only [Event.progress?, if_true, Option.toList_some]
    refine List.pairwise_append.2 ⟨climbing.climbs, by simp, fun a ha b hb => ?_⟩
    cases List.mem_singleton.1 hb
    exact Nat.le_trans (climbing.le a ha) climbing.most
  · have interrupted : Interrupted w.store id w := .climbing p climbing
    exact interrupted.notReady (trace.symm.trans split) first later

lemma Interrupted.progress {before : Subject} (h : Interrupted s₀ id w)
    (found : s₀.getSubject id = .ok (some before)) :
    (progressOf id w.trace).Pairwise (· ≤ ·) ∧ ∃ status,
      w.store.Stands id status ((progressOf id w.trace).getLast?.getD before.progress) := by
  cases h with
  | unstarted same unstored =>
    rw [progressOf_of_unstored unstored, same]
    exact ⟨.nil, before.status, before, found, rfl, rfl⟩
  | climbing p h =>
    rw [h.last]
    exact ⟨h.climbs, _, h.stands⟩

lemma Failed.keepsProgress {before : Subject} {e : AnalysisError} {v : World}
    (h : Failed s₀ id e v) (found : s₀.getSubject id = .ok (some before)) :
    KeepsProgress id before (.error e) v := by
  obtain ⟨w, t, r, interrupted, answers, step⟩ := h
  have trace := congrArg World.trace step
  have silent : progressOf id v.trace = progressOf id w.trace := by
    rw [trace, progressOf_answered]
    cases r <;> simp [Event.progress?]
  obtain ⟨climbs, status, subject, found', -, progress⟩ := interrupted.progress found
  refine ⟨silent ▸ climbs, nofun, fun e' he => ?_, fun front e' rest split first later =>
    interrupted.notReady (trace.symm.trans split) first later⟩
  cases he
  refine ⟨r, by rw [trace, World.answered, List.getLast?_concat], fun ok => ?_⟩
  subst ok
  exact ⟨_, answers.getSubject_updated found', rfl, by rw [silent]; exact progress⟩

/-- A run that is not rejected climbs until it is ready, or until it is interrupted and then leaves
the subject in error where it was. A run that is rejected changes nothing. -/
theorem run_keepsProgress {disk : Disk} {services : Inference.Services} {id : Int}
    {options : AnalysisOptions} {s : Store} {t : Int} {result : Except AnalysisError SubjectStats}
    {v : World}
    (h : Program.Steps (run disk services id options).run ⟨s, t, []⟩ (.done result) v) :
    (∀ subject, s.getSubject id = .ok (some subject) →
      (subject.status.isBusy = true → options.force = true) →
      (∀ load ∈ v.trace.head?, load.answer.isOk = true) → KeepsProgress id subject result v) ∧
    ((s.getSubject id = .ok none ∨ ∃ subject, s.getSubject id = .ok (some subject) ∧
        subject.status.isBusy = true ∧ options.force = false) →
      (∃ e, result = .error e) ∧ v.store = s ∧ ∀ e ∈ v.trace, e.store = s) := by
  have outcome := h.ensures (run_ensures rfl).ensures
  refine ⟨fun subject found free loaded => ?_, fun rejected => ?_⟩
  · cases result with
    | ok stats => exact outcome.2.keepsProgress
    | error e =>
      rcases outcome with ⟨-, r, trace, answered⟩ | ⟨-, failed⟩
      · have ok : r.isOk = true := loaded _ (by rw [trace]; rfl)
        cases r with
        | error e => cases ok
        | ok found' =>
          obtain ⟨found'', barred⟩ := answered found' rfl
          obtain ⟨busy, force⟩ := barred subject (Except.ok.inj (found''.symm.trans found))
          simp [free busy] at force
      · exact failed.keepsProgress found
  · have barred : ¬ Admissible s id options.force := by
      rintro ⟨subject, found, free⟩
      rcases rejected with unknown | ⟨subject', found', busy, force⟩
      · cases found.symm.trans unknown
      · cases found.symm.trans found'
        simp [free busy] at force
    cases result with
    | ok stats => exact absurd outcome.1 barred
    | error e =>
      rcases outcome with ⟨same, r, trace, -⟩ | ⟨admissible, -⟩
      · refine ⟨⟨e, rfl⟩, same, fun e he => ?_⟩
        rw [trace] at he
        cases List.mem_singleton.1 he
        rfl
      · exact absurd admissible barred

section Example

/-- A working tree with one file, of one letter. -/
def letterTree : Disk := ⟨.directory [([97], .file ⟨#[120]⟩)], [], fun _ => none⟩

def letter : SourceFile := ⟨"a", "a", "", .unknown, "x", 1, 1⟩

/-- A store in which nothing but a subject is stored. -/
def newSubject : Store := (Store.empty.registerSubject 0 "tree" "/").2

/-- What a run leaves that fails with a message after it has stored one file. -/
def leftover (message : String) (row : Store.FileRow) : Store :=
  { newSubject with
    subjects := newSubject.subjects.set 1 { Store.SubjectRow.new "tree" "/" 0 with
      status := Store.subjectStatus.write .error
      progress := .value 25
      statusMessage := some message }
    files := newSubject.files.add row }

lemma sourceFile?_letter :
    Files.sourceFile? ⟨10, 1024 * 1024⟩ "a" "a" ⟨#[120]⟩ = some letter := by
  have text : String.fromUTF8? ⟨#[120]⟩ = some "x" := by cbv
  have extension : Files.nameExtension "a" = "" := by cbv
  have slashed : Text.slashed "a" = "a" := by cbv
  have language : Language.ofExtension "" = .unknown := by cbv
  have lines : Text.lineCount "x" = 1 := by cbv
  simp [Files.sourceFile?, extension, text, slashed, language, lines, letter]
  decide

lemma filesAt_letterTree : filesAt letterTree "/" ⟨10, 1024 * 1024⟩ = .ok [letter] := by
  have place : letterTree.resolve "/" = .ok [] := by cbv
  have root : letterTree.find "/" = .ok letterTree.tree := by
    rw [Disk.find, place]
    rfl
  have name : Text.ofBytes [97] = "a" := by cbv
  have taken : Files.isIgnored "a" = false := by cbv
  have walk : Files.walk ⟨10, 1024 * 1024⟩ letterTree.tree = .ok [letter] := by
    simp only [letterTree, Files.walk, Files.walkEntries.eq_2, Files.byName, List.foldr_cons,
      List.foldr_nil, Files.insertByName, List.flatMap_cons, List.flatMap_nil, name, taken,
      Bool.false_eq_true, if_false, String.empty_append, sourceFile?_letter]
    rfl
  have found : (letterTree.find "/").bind (Files.walk ⟨10, 1024 * 1024⟩) = .ok [letter] := by
    rw [root]
    exact walk
  rw [filesAt, found]

lemma historyAt_letterTree : historyAt letterTree "/" 500 = [] := by cbv

/-- A run over one file that fails to mark the files that are gone. The file stays in the store. -/
lemma run_letterTree_fails : ∃ v subject rest,
    Gives (run letterTree (.offline 2) 1 {}) ⟨newSubject, 0, []⟩
      (.error (.failed .markRemoved .refused)) v ∧
    v.trace = ⟨.getSubject 1, .ok (some subject), newSubject⟩ :: rest ∧
    progressOf 1 rest = [0, 5, 20, 25] ∧
    v.trace.getLast? = some ⟨.updateStatus 1 .error none
      (some (AnalysisError.failed .markRemoved .refused).message), .ok (), v.store⟩ ∧
    v.time = 0 ∧
    v.store = leftover (AnalysisError.failed .markRemoved .refused).message
      (.new 1 letter (Outline.ofFile Libraries.absent.parse letter).imports
        (Outline.ofFile Libraries.absent.parse letter).exports 1) := by
  apply Exists.intro
  apply Exists.intro
  apply Exists.intro
  constructor
  · apply Gives.bind
    · exact .bind (need_gives (t := 0) (Int.le_refl _) rfl) (.refl _ _)
    · apply Gives.tryCatch
      · apply Gives.bind (report_gives rfl)
        apply Gives.bind
        · apply Gives.bind (report_gives rfl)
          apply Gives.bind (a := (0 : Nat))
          · apply Gives.lift
            change (saveCommits _ (historyAt letterTree "/" 500)).Steps _ _ _
            rw [historyAt_letterTree]
            exact .refl _ _
          · exact report_gives rfl
        · apply Gives.bind_error
          apply Gives.bind (report_gives rfl)
          apply Gives.bind (.lift (.step (.now (Int.le_refl _)) (.refl _ _)))
          apply Gives.bind (a := [letter])
          · change Gives (liftM (filesAt letterTree "/" ⟨10, 1024 * 1024⟩)) _ _ _
            rw [filesAt_letterTree]
            exact .refl _ _
          · apply Gives.bind
            · apply Gives.lift
              exact .bind (Program.steps_request (Int.le_refl _) (.of_perform rfl)) (.refl _ _)
            · exact .bind_error (need_gives_error .refused (Int.le_refl _))
      · apply Gives.bind
        · apply Gives.lift
          exact .bind (Program.steps_request (Int.le_refl _) (.of_perform rfl)) (.refl _ _)
        · exact .refl _ _
  · exact ⟨rfl, rfl, rfl, rfl, rfl⟩

/-- That run leaves the subject in error, as far as it had got before the file was stored. -/
theorem run_keepsProgress_letterTree : ∃ e v,
    Program.Steps (run letterTree (.offline 2) 1 {}).run ⟨newSubject, 0, []⟩ (.done (.error e)) v ∧
      v.store.Stands 1 .error 25 := by
  obtain ⟨v, subject, rest, steps, trace, progress, last, -⟩ := run_letterTree_fails
  have loaded : ∀ load ∈ v.trace.head?, load.answer.isOk = true := by
    rw [trace]
    rintro load ⟨⟩
    rfl
  have kept := (run_keepsProgress steps).1 _ rfl (fun busy => by cases busy) loaded
  obtain ⟨r, last', stands⟩ := kept.closes _ rfl
  have written : progressOf 1 v.trace = [0, 5, 20, 25] := by
    rw [trace]
    exact progress
  cases last.symm.trans last'
  refine ⟨_, v, steps, ?_⟩
  simpa [written] using stands rfl

end Example

end Analysis

end CodeAtlas
