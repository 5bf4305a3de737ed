import CodeAtlas.Proofs.Calls

/-! # Fresh marks

When the mark of a run is one that no row of its subject has yet. Then no row of an earlier run is
left by the sweeps. The mark follows the clock and the last run that succeeded, so that it may be
the mark of a run that failed since. -/
namespace CodeAtlas

namespace Store

/-- A file or a symbol of a subject has a mark. -/
def HasMark (s : Store) (a m : Int) : Prop :=
  (∃ e ∈ s.files.rows, e.2.subjectId = a ∧ e.2.lastSeenAt = .value m) ∨
    ∃ e ∈ s.symbols.rows, e.2.subjectId = a ∧ e.2.lastSeenAt = .value m

instance {s : Store} {a m : Int} : Decidable (s.HasMark a m) :=
  inferInstanceAs (Decidable ((∃ e ∈ s.files.rows, _) ∨ ∃ e ∈ s.symbols.rows, _))

lemma Capped.hasMark_le {s : Store} {a m k : Int} (h : s.Capped a m) (sound : s.Sound)
    (marked : s.HasMark a k) : k ≤ m := by
  rcases marked with ⟨e, he, ha, hk⟩ | ⟨e, he, ha, hk⟩
  · obtain ⟨k', -, hk', -, le, -⟩ := h.files e he ha
    cases hk.symm.trans hk'
    exact le
  · obtain ⟨k', f, j, hk', found, hj, le⟩ := h.symbols e he ha
    cases hk.symm.trans hk'
    exact Int.le_trans le (h.file_le sound he ha found hj)

end Store

namespace Analysis

variable {a m : Int} {w v : World}

/-- A mark that is beyond none of the others is a new one just if it is beyond all of them. -/
lemma fresh_iff {now : Int} {last : Option Int}
    (capped : ∀ k, w.store.HasMark a k → k ≤ marker now last) :
    ¬ w.store.HasMark a (marker now last) ↔
      ∀ k, w.store.HasMark a k → k < now ∨ k ≤ last.getD 0 := by
  constructor
  · intro fresh k hk
    have le := capped k hk
    have ne : k ≠ marker now last := by
      rintro rfl
      exact fresh hk
    unfold marker at le ne
    omega
  · intro earlier marked
    have := earlier _ marked
    unfold marker at this
    omega

/-- What is swept under a mark has no row left that was in a store before. -/
structure Sweeps (a m : Int) (s : Store) (v : World) : Prop where
  files : Did (.markUnseen a m) v.trace → ∀ e ∈ v.store.files.rows, e.2.subjectId = a →
    e.2.isDeleted = .value false → e ∉ s.files.rows
  symbols : Did (.pruneSymbols a m) v.trace → ∀ e ∈ v.store.symbols.rows, e.2.subjectId = a →
    e ∉ s.symbols.rows

lemma Kept.sweeps (kept : Kept a m v) (fresh : ¬ w.store.HasMark a m) : Sweeps a m w.store v where
  files did e he ha alive old := fresh (.inl ⟨e, old, ha, kept.swept did e he ha alive⟩)
  symbols did e he ha old := fresh (.inr ⟨e, old, ha, kept.pruned did e he ha⟩)

/-- After any calls, the mark of a run is fresh just if all marks of its subject are before the
reading of the clock that it comes from, or not after the last run that succeeded. If it is, what
the run has not seen goes when it is swept. -/
theorem run_fresh_iff {log : List (Call × Ending)} (history : History log w) {subject : Subject}
    (found : w.store.getSubject a = .ok (some subject)) {disk : Disk}
    {services : Inference.Services} {options : AnalysisOptions}
    {p : Program (Except AnalysisError SubjectStats)}
    (steps : (run disk services a options).run.Steps w p v) :
    ∃ now, w.time ≤ now ∧ now ≤ v.time ∧ MarkedBy (marker now subject.lastAnalyzedAt) v.trace ∧
      (¬ w.store.HasMark a (marker now subject.lastAnalyzedAt) ↔
        ∀ k, w.store.HasMark a k → k < now ∨ k ≤ subject.lastAnalyzedAt.getD 0) ∧
      (¬ w.store.HasMark a (marker now subject.lastAnalyzedAt) →
        Sweeps a (marker now subject.lastAnalyzedAt) w.store v) := by
  have regular := history.regular
  obtain ⟨last, dated, capped⟩ := regular.marked a
  obtain ⟨row, hrow, record⟩ := Store.getSubject_eq_some.1 found
  obtain rfl := Store.SubjectRow.lastAnalyzedAt_of_record (dated.stamp row hrow) record
  obtain ⟨tree, htree⟩ := exists_tree disk a options w.store
  have steady : Steady a subject.lastAnalyzedAt w v := by
    have ensured : EnsuresOr _ _ _ (run disk services a options) w :=
      run_steady history.fresh regular.sound dated capped htree
    exact ((ensured.mono (fun _ _ h => h.2) fun _ _ h => h.2).weaken fun _ _ h => h.2).of_steps
      steps
  obtain ⟨now, from_start, before, marked⟩ := steady.reading
  have later := marker_mono from_start (Int.le_refl (subject.lastAnalyzedAt.getD 0))
  refine ⟨now, from_start, before, marked, fresh_iff fun k hk => ?_, fun fresh => ?_⟩
  · exact (capped.mono later).hasMark_le regular.sound hk
  · exact (steady.kept _ later marked).sweeps fresh

/-- While the clock stands still, a program is executed as it is run. -/
lemma steps_still (p : Program α) (services : Inference.Services) (s : Store) {t clock : Int}
    (later : t ≤ clock) : ∃ v : World, v.time ≤ clock ∧
      v.store = (p.run services (fun _ => clock) ⟨s, 0, []⟩).2.store ∧
      v.trace = p.events services (fun _ => clock) ⟨s, 0, []⟩ ∧
      p.Steps ⟨s, t, []⟩ (.done (p.run services (fun _ => clock) ⟨s, 0, []⟩).1) v := by
  obtain ⟨t', most, steps⟩ := Program.steps_run services (fun _ => clock)
    (fun _ => Int.le_refl clock) p ⟨s, 0, []⟩ t [] later
  exact ⟨⟨_, t', _⟩, most, rfl, rfl, steps⟩

lemma fresh_of_marks {s : Store} {trace : List Event} (one : ∀ k ∈ trace.filterMap
    (·.operation.mark?), k = m) (new : ¬ s.HasMark a m) :
    ∀ e ∈ trace, ∀ k, e.operation.mark? = some k → ¬ s.HasMark a k := by
  intro e he k hk
  rw [one k (List.mem_filterMap.2 ⟨e, he, hk⟩)]
  exact new

section Example

/-- A source that imports another one and calls what is defined there. -/
def pairEntries : List (FileName × FileTree) := [
  (Text.toBytes "main.py",
    .file "from util.py import twice\n\ndef main(n):\n    return twice(n)\n".toUTF8),
  (Text.toBytes "util.py", .file "def twice(x):\n    return x + x\n".toUTF8)]

/-- Two commits, and one that cannot be read. -/
def pairLog : History.GitLog where
  commits := [
    some ⟨"c2", some (Text.toBytes "Ada", Text.toBytes "ada@example.org"), Text.toBytes "Call it\n",
      some 9, ["c1"]⟩,
    none,
    some ⟨"c1", none, Text.toBytes "Begin\n", some 4, []⟩]
  diff _ _ := some (Text.toBytes ":100644 100644 1 2 M\tmain.py\n4\t1\tmain.py\n")

def pairTree : Disk :=
  ⟨.directory pairEntries, [], fun path => if path = "/" then some pairLog else none⟩

/-- What makes a vector of the length of a text. -/
def lengths : Inference.Services where
  embedder := some fun text => .ok [⟨UInt32.ofNat text.length⟩]
  dimension := 1

/-- The store of a new subject, once both sources were gone through. -/
def pairStore : Store :=
  ((run pairTree lengths 1 {}).run.run lengths (fun _ => 5) ⟨newSubject, 0, []⟩).2.store

/-- A working tree without files. -/
def bareTree : Disk := ⟨.directory [], [], fun _ => none⟩

/-- The row of a letter that a run at the start of time has stored. -/
def letterRow (contentHash : String) : Store.FileRow :=
  ⟨1, "a", "a", "", Store.language.write .unknown, "x", .value 1, .value 1, Store.strings.write [],
    Store.strings.write [], contentHash, .value false, .value 1⟩

def leftoverLog : List (Call × Ending) :=
  [(.analyze letterTree (.offline 2) 1 {}, .returned false),
    (.resolve letterTree "/" (some "tree"), .returned true)]

lemma letterRow_eq (parse : Outline.Script.Parser) :
    Store.FileRow.new 1 letter (Outline.ofFile parse letter).imports
        (Outline.ofFile parse letter).exports 1 =
      letterRow (Digest.Blake3.hashText letter.content.toUTF8) := by
  have imports : (Outline.ofFile parse letter).imports = [] := by cbv
  have exports : (Outline.ofFile parse letter).exports = [] := by cbv
  rw [imports, exports]
  rfl

lemma history_of_first {call : Call} (refusals : List Store.Refusal) {ok : Bool} {s : Store}
    (value : (call.program.run (.offline 2) (fun _ => 0)
      ⟨{ Store.empty with refusals }, 0, []⟩).1 = ok)
    (store : (call.program.run (.offline 2) (fun _ => 0)
      ⟨{ Store.empty with refusals }, 0, []⟩).2.store = s) :
    History [(call, .returned ok)] ⟨s, 0, []⟩ := by
  obtain ⟨v, most, left, -, steps⟩ := steps_still call.program (.offline 2)
    { Store.empty with refusals } (Int.le_refl 0)
  rw [value] at steps
  have history : History [(call, .returned ok)] ⟨v.store, v.time, []⟩ :=
    .returned (.start refusals) steps
  rwa [left, store, Int.le_antisymm most steps.later] at history

lemma history_newSubject (entries : List (FileName × FileTree)) (git : History.Git) :
    History [(.resolve ⟨.directory entries, [], git⟩ "/" (some "tree"), .returned true)]
      ⟨newSubject, 0, []⟩ :=
  history_of_first [] (by cbv) (by cbv)

lemma run_pairTree :
    ((run pairTree lengths 1 {}).run.run lengths (fun _ => 5) ⟨newSubject, 0, []⟩).1 =
      .ok ⟨2, 2, 2, 2, ["python"]⟩ ∧
    ((run pairTree lengths 1 {}).run.events lengths (fun _ => 5)
      ⟨newSubject, 0, []⟩).all (·.answer.isOk) = true ∧
    ((run pairTree lengths 1 {}).run.events lengths (fun _ => 5)
      ⟨newSubject, 0, []⟩).filterMap (·.operation.mark?) = List.replicate 6 5 ∧
    ¬ newSubject.HasMark 1 5 ∧ pairStore.refusals = [] := by
  decide +kernel

lemma steps_pairTree : ∃ v : World, v.time ≤ 5 ∧ v.store = pairStore ∧
    v.trace = (run pairTree lengths 1 {}).run.events lengths (fun _ => 5) ⟨newSubject, 0, []⟩ ∧
    (run pairTree lengths 1 {}).run.Steps ⟨newSubject, 0, []⟩
      (.done (.ok ⟨2, 2, 2, 2, ["python"]⟩)) v := by
  obtain ⟨v, most, store, trace, steps⟩ := steps_still (run pairTree lengths 1 {}).run lengths
    newSubject (show (0 : Int) ≤ 5 by decide)
  rw [run_pairTree.1] at steps
  rw [← pairStore] at store
  exact ⟨v, most, store, trace, steps⟩

/-- After a working tree was named, a run over its one file has failed. -/
lemma history_leftover : ∃ message contentHash,
    History leftoverLog ⟨leftover message (letterRow contentHash), 0, []⟩ := by
  obtain ⟨v, -, -, steps, -, -, -, time, store⟩ := run_letterTree_fails
  have failed : (Call.analyze letterTree (.offline 2) 1 {}).program.Steps ⟨newSubject, 0, []⟩
      (.done false) v := Program.Steps.bind steps (.refl _ _)
  have history : History leftoverLog ⟨v.store, v.time, []⟩ :=
    (history_newSubject [([97], .file ⟨#[120]⟩)] letterTree.git).returned failed
  rw [store, time, letterRow_eq] at history
  exact ⟨_, _, history⟩

lemma getSubject_leftover (message : String) (row : Store.FileRow) : ∃ subject,
    (leftover message row).getSubject 1 = .ok (some subject) ∧ subject.status = .error ∧
      subject.rootPath = "/" ∧ subject.lastAnalyzedAt = none :=
  have new : (Store.SubjectRow.new "tree" "/" 0).record 1 = .ok _ := Store.SubjectRow.record_new
  have record : ((Store.SubjectRow.new "tree" "/" 0).updated 0 .error (some 25)
      (some message)).record 1 = .ok _ := Store.SubjectRow.record_updated new ..
  ⟨_, Store.getSubject_eq_some.2 ⟨_, rfl, record⟩, rfl, rfl, rfl⟩

/-- The store that is left, at the start of a run. -/
def leftoverMoment (message contentHash : String) : Moment :=
  ⟨leftover message (letterRow contentHash), 0, []⟩

lemma steps_bareTree (message contentHash : String) {clock : Int} (later : 0 ≤ clock) :
    ∃ v : World,
      v.store = ((run bareTree (.offline 2) 1 {}).run.run (.offline 2) (fun _ => clock)
        (leftoverMoment message contentHash)).2.store ∧
      v.trace = (run bareTree (.offline 2) 1 {}).run.events (.offline 2) (fun _ => clock)
        (leftoverMoment message contentHash) ∧
      (run bareTree (.offline 2) 1 {}).run.Steps
        ⟨leftover message (letterRow contentHash), 0, []⟩
        (.done ((run bareTree (.offline 2) 1 {}).run.run (.offline 2) (fun _ => clock)
          (leftoverMoment message contentHash)).1) v := by
  obtain ⟨v, -, store, trace, steps⟩ := steps_still (run bareTree (.offline 2) 1 {}).run
    (.offline 2) (leftover message (letterRow contentHash)) later
  rw [← leftoverMoment] at store trace steps
  exact ⟨v, store, trace, steps⟩

/-- While the clock stands still, the mark of a run that failed is taken again. So a file is still
there that is gone from the working tree. -/
theorem marker_repeats : ∃ log w v stats, History log w ∧
    (∀ e ∈ log, ∃ disk, e = (.analyze disk (.offline 2) 1 {}, .returned false) ∨
      e = (.resolve disk "/" (some "tree"), .returned true)) ∧
    (run bareTree (.offline 2) 1 {}).run.Steps w (.done (.ok stats)) v ∧
    filesAt bareTree "/" ⟨10, 1024 * 1024⟩ = .ok [] ∧
    v.trace.filterMap (·.operation.mark?) = [1, 1] ∧ w.store.HasMark 1 1 ∧
    ∃ contentHash, v.store.listFiles 1 = .ok [⟨1, 1, letter, [], [], contentHash, false⟩] := by
  obtain ⟨message, contentHash, history⟩ := history_leftover
  obtain ⟨v, store, trace, steps⟩ := steps_bareTree message contentHash (Int.le_refl 0)
  have stats : ((run bareTree (.offline 2) 1 {}).run.run (.offline 2) (fun _ => 0)
      (leftoverMoment message contentHash)).1 = .ok ⟨0, 1, 0, 0, []⟩ := by cbv
  rw [stats] at steps
  refine ⟨_, _, v, _, history, ?_, steps, by cbv, by rw [trace]; cbv, ?_, contentHash,
    by rw [store]; cbv⟩
  · intro e he
    simp only [leftoverLog, List.mem_cons, List.not_mem_nil, or_false] at he
    rcases he with rfl | rfl
    · exact ⟨letterTree, .inl rfl⟩
    · exact ⟨letterTree, .inr rfl⟩
  · exact .inl ⟨(1, letterRow contentHash), List.mem_cons_self, rfl, rfl⟩

lemma run_bareTree_later (message contentHash : String) : ∃ v stats,
    (run bareTree (.offline 2) 1 {}).run.Steps ⟨leftover message (letterRow contentHash), 0, []⟩
      (.done (.ok stats)) v ∧
    v.trace.filterMap (·.operation.mark?) = [5, 5] ∧ ∀ e ∈ v.trace, e.answer.isOk = true := by
  obtain ⟨v, -, trace, steps⟩ := steps_bareTree message contentHash (show (0 : Int) ≤ 5 by decide)
  have stats : ((run bareTree (.offline 2) 1 {}).run.run (.offline 2) (fun _ => 5)
      (leftoverMoment message contentHash)).1 = .ok ⟨0, 0, 0, 0, []⟩ := by cbv
  have performed : ((run bareTree (.offline 2) 1 {}).run.events (.offline 2) (fun _ => 5)
      (leftoverMoment message contentHash)).all (·.answer.isOk) = true := by cbv
  rw [stats] at steps
  rw [← trace] at performed
  exact ⟨v, _, steps, by rw [trace]; cbv, List.all_eq_true.1 performed⟩

lemma hasMark_leftover {message contentHash : String} {k : Int}
    (h : (leftover message (letterRow contentHash)).HasMark 1 k) : k = 1 := by
  rcases h with ⟨row, hrow, -, hk⟩ | ⟨row, hrow, -⟩
  · cases List.mem_singleton.1 hrow
    cases hk
    rfl
  · cases hrow

/-- Once the clock has gone on, that file goes. -/
theorem run_fresh_iff_bareTree : ∃ w v stats, History leftoverLog w ∧
    (run bareTree (.offline 2) 1 {}).run.Steps w (.done (.ok stats)) v ∧
    Sweeps 1 5 w.store v := by
  obtain ⟨message, contentHash, history⟩ := history_leftover
  obtain ⟨v, stats, steps, marks, -⟩ := run_bareTree_later message contentHash
  obtain ⟨subject, found, -, -, last⟩ := getSubject_leftover message (letterRow contentHash)
  obtain ⟨now, -, -, marked, fresh, sweeps⟩ := run_fresh_iff history found steps
  rw [last] at marked fresh sweeps
  obtain ⟨e, he, mark⟩ := List.mem_filterMap.1 (marks ▸ List.mem_cons_self)
  have five : 5 = marker now none := marked e he 5 mark
  rw [← five] at fresh sweeps
  refine ⟨_, v, stats, history, steps, sweeps (fresh.2 fun k hk => ?_)⟩
  obtain rfl := hasMark_leftover hk
  unfold marker at five
  simp only [Option.getD_none] at five ⊢
  omega

end Example

end Analysis

end CodeAtlas
