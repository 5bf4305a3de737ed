import CodeAtlas.Proofs.Progress

/-! # Requests of an analysis

What an analysis asks of the store, and what is known from the requests that it has made: the mark
of the run, the files and the symbols that were tried, and those of them that were stored. -/
namespace CodeAtlas

/-- The mark that an operation gives to rows, or goes by. -/
def Store.Operation.mark? : Operation → Option Int
  | writeFile _ _ _ _ m | markUnseen _ m | writeSymbol _ _ _ m | pruneSymbols _ m => some m
  | _ => none

/-- Whether an analysis goes on when an operation fails. -/
def Store.Operation.isItem : Operation → Bool
  | writeCommit .. | writeFile .. | writeSymbol .. => true
  | _ => false

namespace Event

def triedFile? (e : Event) : Option SourceFile :=
  match e.operation with
  | .writeFile _ f .. => some f
  | _ => none

def savedFile? : Event → Option (Int × SourceFile)
  | ⟨.writeFile _ f .., .ok id, _⟩ => some (id, f)
  | _ => none

def triedSymbol? (e : Event) : Option (Int × CodeSymbol) :=
  match e.operation with
  | .writeSymbol _ file y _ => some (file, y)
  | _ => none

def savedSymbol? : Event → Option (Int × Int × CodeSymbol)
  | ⟨.writeSymbol _ file y _, .ok id, _⟩ => some (id, file, y)
  | _ => none

end Event

/-- The files that were stored, with their numbers. -/
def savedFiles (trace : List Event) : List (Int × SourceFile) := trace.filterMap Event.savedFile?

/-- The symbols that were stored, with their numbers and those of their files. -/
def savedSymbols (trace : List Event) : List (Int × Int × CodeSymbol) :=
  trace.filterMap Event.savedSymbol?

/-- An operation was asked for and succeeded. -/
def Did (o : Store.Operation) (trace : List Event) : Prop :=
  ∃ e ∈ trace, e.operation = o ∧ e.answer.isOk = true

namespace Analysis

/-! ## What is asked -/

/-- The one mark of a run that started at a time: it comes from a reading of the clock. -/
structure Marking (start : Int) (last : Option Int) (m : Int) (w : World) : Prop where
  reading : ∃ now, start ≤ now ∧ now ≤ w.time ∧ m = marker now last
  only : ∀ e ∈ w.trace, ∀ m', e.operation.mark? = some m' → m' = m

/-- What an analysis may ask that outlines files by a parser. -/
def Asks (parse : Outline.Script.Parser) (a start : Int) (last : Option Int) (w : World) :
    Store.Operation → Prop
  | .getSubject _ | .calculateStats _ | .listFiles _ | .listSymbols _ | .listCommits .. => True
  | .updateStatus subject .. | .replaceEdges subject _ | .replaceEmbeddings subject _ =>
      subject = a
  | .writeCommit subject c => subject = a ∧ (Store.Held.value c.timestamp).InWord
  | .saveStats subject _ analyzedAt => subject = a ∧ analyzedAt = w.time
  | .writeFile subject f imports exports m =>
      subject = a ∧ Marking start last m w ∧ imports = (Outline.ofFile parse f).imports ∧
        exports = (Outline.ofFile parse f).exports
  | .markUnseen subject m | .pruneSymbols subject m => subject = a ∧ Marking start last m w
  | .writeSymbol subject file _ m =>
      subject = a ∧ Marking start last m w ∧ ∃ f, (file, f) ∈ savedFiles w.trace
  | _ => False

/-- Whatever is asked next, it may be asked. -/
def Orderly (parse : Outline.Script.Parser) (a start : Int) (last : Option Int) (w : World)
    (o : Option Store.Operation) : Prop :=
  ∀ q ∈ o, Asks parse a start last w q

/-- What was tried and what was stored by a run with a mark. -/
structure Journal (start : Int) (last : Option Int) (m : Int) (files : List SourceFile)
    (saved : List (Int × SourceFile)) (symbols : List (Int × CodeSymbol)) (w : World) : Prop
    extends Marking start last m w where
  files : w.trace.filterMap Event.triedFile? = files
  saved : savedFiles w.trace = saved
  symbols : w.trace.filterMap Event.triedSymbol? = symbols

variable {parse : Outline.Script.Parser} {a start : Int} {last : Option Int} {m : Int}
  {files : List SourceFile}
  {saved : List (Int × SourceFile)} {symbols : List (Int × CodeSymbol)} {w : World}
  {t : Int} {o : Store.Operation} {r : Except StoreError o.Result} {s : Store}

lemma orderly_none : Orderly parse a start last w none := by simp [Orderly]

lemma orderly_some (h : Asks parse a start last w o) : Orderly parse a start last w (some o) := by
  intro q hq
  cases hq
  exact h

lemma Marking.read (h : Marking start last m w) (later : w.time ≤ t) :
    Marking start last m (w.read t) := by
  obtain ⟨now, from_start, before, rfl⟩ := h.reading
  exact ⟨⟨now, from_start, Int.le_trans before later, rfl⟩, h.only⟩

lemma Marking.answered (h : Marking start last m w) (later : w.time ≤ t)
    (mark : o.mark? = none ∨ o.mark? = some m) : Marking start last m (w.answered t o r s) := by
  obtain ⟨now, from_start, before, rfl⟩ := h.reading
  refine ⟨⟨now, from_start, Int.le_trans before later, rfl⟩, fun e he m' hm' => ?_⟩
  rcases List.mem_append.1 he with he | he
  · exact h.only e he m' hm'
  · cases List.mem_singleton.1 he
    rcases mark with mark | mark
    · cases mark.symm.trans hm'
    · exact (Option.some.inj (mark.symm.trans hm')).symm

/-- What no request without a mark changes. -/
structure Quiet (K : World → Prop) : Prop where
  read : ∀ w t, K w → w.time ≤ t → K (w.read t)
  answered : ∀ w t (o : Store.Operation) r s, K w → w.time ≤ t → o.mark? = none →
    K (w.answered t o r s)

lemma Quiet.and {K K' : World → Prop} (h : Quiet K) (h' : Quiet K') :
    Quiet fun w => K w ∧ K' w where
  read w t hw later := ⟨h.read w t hw.1 later, h'.read w t hw.2 later⟩
  answered w t o r s hw later unmarked :=
    ⟨h.answered w t o r s hw.1 later unmarked, h'.answered w t o r s hw.2 later unmarked⟩

lemma filterMap_answered {f : Event → Option β} :
    (w.answered t o r s).trace.filterMap f = w.trace.filterMap f ++ (f ⟨o, r, s⟩).toList := by
  simp only [World.answered, List.filterMap_append]
  cases h : f ⟨o, r, s⟩ <;> simp [h]

lemma journal_quiet : Quiet (Journal start last m files saved symbols) where
  read w t h later := ⟨h.toMarking.read later, h.files, h.saved, h.symbols⟩
  answered w t o r s h later unmarked := by
    have file : Event.triedFile? ⟨o, r, s⟩ = none ∧ Event.savedFile? ⟨o, r, s⟩ = none ∧
        Event.triedSymbol? ⟨o, r, s⟩ = none := by
      cases o with
      | writeFile | writeSymbol => cases unmarked
      | _ => exact ⟨rfl, rfl, rfl⟩
    refine ⟨h.toMarking.answered later (.inl unmarked), ?_, ?_, ?_⟩
    · simp [filterMap_answered, file.1, h.files]
    · simp [savedFiles, filterMap_answered, file.2.1, ← h.saved]
    · simp [filterMap_answered, file.2.2, h.symbols]

lemma did_quiet {q : Store.Operation} : Quiet fun w => Did q w.trace where
  read _ _ h _ := h
  answered _ _ _ _ _ h _ _ := by
    obtain ⟨e, he, done⟩ := h
    exact ⟨e, List.mem_append_left _ he, done⟩

lemma did_answered {x : o.Result} : Did o (w.answered t o (.ok x) s).trace :=
  ⟨⟨o, .ok x, s⟩, List.mem_append_right _ List.mem_cons_self, rfl, rfl⟩

/-- Before a run has a mark. -/
def Unmarked (start : Int) (w : World) : Prop :=
  start ≤ w.time ∧ ∀ e ∈ w.trace, e.operation.mark? = none

lemma unmarked_quiet : Quiet (Unmarked start) where
  read _ _ h later := ⟨Int.le_trans h.1 later, h.2⟩
  answered w t o r s h later unmarked := by
    refine ⟨Int.le_trans h.1 later, fun e he => ?_⟩
    rcases List.mem_append.1 he with he | he
    · exact h.2 e he
    · cases List.mem_singleton.1 he
      exact unmarked

/-- A reading of the clock gives a run its mark. -/
lemma Unmarked.journal (h : Unmarked start w) :
    Journal start last (marker w.time last) [] [] [] w := by
  have none_of : ∀ {β : Type} (f : Event → Option β), (∀ e, e.operation.mark? = none → f e = none) →
      w.trace.filterMap f = [] :=
    fun f hf => List.filterMap_eq_nil_iff.2 fun e he => hf e (h.2 e he)
  refine ⟨⟨⟨w.time, h.1, Int.le_refl _, rfl⟩, fun e he m hm => ?_⟩, ?_, ?_, ?_⟩
  · rw [h.2 e he] at hm
    cases hm
  all_goals
    refine none_of _ fun e unmarked => ?_
    obtain ⟨o, r, s⟩ := e
    cases o with
    | writeFile | writeSymbol => cases unmarked
    | _ => rfl

/-- What is kept of a commit, a file or a symbol: nothing, or what it was with its number. -/
def idOf (x : α) : Except StoreError Int → List (Int × α)
  | .ok id => [(id, x)]
  | .error _ => []

lemma Journal.writeFile {subject : Int} {f : SourceFile} {imports exports : List String}
    {r : Except StoreError (Store.Operation.Result (.writeFile subject f imports exports m))}
    (h : Journal start last m files saved symbols w) (later : w.time ≤ t) :
    Journal start last m (files ++ [f]) (saved ++ idOf f r) symbols
      (w.answered t (.writeFile subject f imports exports m) r s) := by
  refine ⟨h.toMarking.answered later (.inr rfl), ?_, ?_, ?_⟩
  · simp [filterMap_answered, h.files, Event.triedFile?]
  · rw [savedFiles, filterMap_answered, ← h.saved]
    cases r <;> rfl
  · simp [filterMap_answered, h.symbols, Event.triedSymbol?]

lemma Journal.writeSymbol {subject file : Int} {y : CodeSymbol}
    {r : Except StoreError (Store.Operation.Result (.writeSymbol subject file y m))}
    (h : Journal start last m files saved symbols w) (later : w.time ≤ t) :
    Journal start last m files saved (symbols ++ [(file, y)])
      (w.answered t (.writeSymbol subject file y m) r s) := by
  refine ⟨h.toMarking.answered later (.inr rfl), ?_, ?_, ?_⟩
  · simp [filterMap_answered, h.files, Event.triedFile?]
  · simp [savedFiles, filterMap_answered, ← h.saved, Event.savedFile?]
  · simp [filterMap_answered, h.symbols, Event.triedSymbol?]

/-- The sweeps go by the mark of the run. -/
lemma Journal.sweep (h : Journal start last m files saved symbols w) (later : w.time ≤ t)
    {subject : Int} (sweeps : o = .markUnseen subject m ∨ o = .pruneSymbols subject m) :
    Journal start last m files saved symbols (w.answered t o r s) := by
  rcases sweeps with rfl | rfl
  all_goals
    refine ⟨h.toMarking.answered later (.inr rfl), ?_, ?_, ?_⟩
    · simp [filterMap_answered, h.files, Event.triedFile?]
    · simp [savedFiles, filterMap_answered, ← h.saved, Event.savedFile?]
    · simp [filterMap_answered, h.symbols, Event.triedSymbol?]

/-! ## Parts -/

/-- An operation failed that the analysis cannot do without. -/
def Blamed (w : World) : Prop :=
  ∃ e ∈ w.trace, e.answer.isOk = false ∧ e.operation.isItem = false

lemma blamed_answered {e : StoreError} (item : o.isItem = false) :
    Blamed (w.answered t o (.error e) s) :=
  ⟨⟨o, .error e, s⟩, List.mem_append_right _ List.mem_cons_self, rfl, item⟩

/-- A part of an analysis asks what it may, and ends well or is stopped by an operation that failed
or by a working tree that cannot be read. -/
def Requests (parse : Outline.Script.Parser) (a start : Int) (last : Option Int)
    (tree : Except AnalysisError (List SourceFile)) (x : Task α) (K : World → Prop)
    (ok : α → World → Prop) : Prop :=
  ∀ w, K w →
    EnsuresOr (Orderly parse a start last) ok (fun e v => Blamed v ∨ tree = .error e) x w

variable {tree : Except AnalysisError (List SourceFile)} {K : World → Prop}

lemma Requests.bind {x : Task α} {f : α → Task β} {M : α → World → Prop}
    {ok : β → World → Prop} (hx : Requests parse a start last tree x K M)
    (hf : ∀ c, Requests parse a start last tree (f c) (M c) ok) :
    Requests parse a start last tree (x >>= f) K ok :=
  fun w h => (hx w h).bind fun c v hv => hf c v hv

lemma requests_pure {c : α} {ok : α → World → Prop} (h : ∀ w, K w → ok c w) :
    Requests parse a start last tree (pure c) K ok := fun w hw => .of_pure (h w hw)

lemma requests_lift {x : Program α} {Q : α → World → Prop}
    (h : ∀ w, K w → x.Ensures (Orderly parse a start last) Q w) :
    Requests parse a start last tree (liftM x) K Q := fun w hw => .of_lift (h w hw)

lemma requests_need {step : AnalysisStep} {ok : o.Result → World → Prop}
    (asks : ∀ w, K w → Asks parse a start last w o) (item : o.isItem = false)
    (good : ∀ w t x s, K w → w.time ≤ t → ok x (w.answered t o (.ok x) s)) :
    Requests parse a start last tree (need step o) K ok :=
  fun w h => need_ensures (orderly_some (asks w h)) (fun t later x s _ => good w t x s h later)
    fun _ _ _ _ _ => .inl (blamed_answered item)

lemma requests_quiet {step : AnalysisStep} (quiet : Quiet K)
    (asks : ∀ w, K w → Asks parse a start last w o) (item : o.isItem = false)
    (unmarked : o.mark? = none) :
    Requests parse a start last tree (need step o) K fun _ v => K v :=
  requests_need asks item fun w t x s h later => quiet.answered w t o (.ok x) s h later unmarked

lemma requests_report (quiet : Quiet K) {reached progress : Nat} {message : String} :
    Requests parse a start last tree (report a reached progress message) K fun _ v => K v :=
  Requests.bind (M := fun _ v => K v) (requests_quiet quiet (by simp [Asks]) rfl rfl) fun _ =>
    requests_pure fun _ h => h

lemma requests_time (quiet : Quiet K) :
    Requests parse a start last tree (liftM Program.time) K fun now v => K v ∧ now = v.time :=
  requests_lift fun w h => time_ensures orderly_none fun t later => ⟨quiet.read w t h later, rfl⟩

/-- The time of a commit is a number that git tells of 64 bits. -/
lemma timestamp_inWord {disk : Disk} {root : String} {limit : Nat} {c : Commit}
    (mem : c ∈ historyAt disk root limit) : (Store.Held.value c.timestamp).InWord := by
  unfold historyAt History.commitsAt at mem
  split at mem
  next log =>
    obtain ⟨told, -, rfl⟩ := List.mem_map.1 mem
    rintro _ ⟨⟩
    cases seconds : told.seconds with
    | none => simp [History.GitLog.record, seconds]
    | some n =>
      have low := n.le_toInt
      have high := n.toInt_lt
      simp only [History.GitLog.record, seconds, Option.map_some, Option.getD_some]
      omega
  next => cases mem

lemma requests_commitStage {disk : Disk} {root : String} {options : AnalysisOptions}
    {reached : Nat} (quiet : Quiet K) :
    Requests parse a start last tree (commitStage disk root a options reached) K
      fun _ v => K v := by
  refine (requests_report quiet).bind fun _ =>
    (requests_lift (Q := fun _ v => K v) fun w h => ?_).bind fun _ => requests_report quiet
  exact saveCommits_ensures (J := fun _ v => K v) _
    (fun _ _ _ mem _ => orderly_some ⟨rfl, timestamp_inWord mem⟩)
    (fun _ w _ _ t r s h later _ => quiet.answered w t _ r s h later rfl) [] h

/-- All files of the working tree were tried, and those that are gone were marked. -/
def Filed (a start : Int) (last : Option Int) (tree : Except AnalysisError (List SourceFile))
    (m : Int) (saved : List (Int × SourceFile)) (symbols : List (Int × CodeSymbol)) (w : World) :
    Prop :=
  ∃ files, tree = .ok files ∧ Journal start last m files saved symbols w ∧
    Did (.markUnseen a m) w.trace

/-- The outlines of files that were stored. -/
def outlines (parse : Outline.Script.Parser) (saved : List (Int × SourceFile)) :
    List (Int × Outline) :=
  saved.map fun x => (x.1, Outline.ofFile parse x.2)

/-- Files are tried in order, and the outlines of those that are stored are given. -/
lemma requests_saveFiles (files : List SourceFile) :
    Requests parse a start last tree
      (liftM (saveFiles a m (files.map fun f => (f, Outline.ofFile parse f))))
      (fun w => Journal start last m [] [] [] w) fun out v => ∃ saved, out = outlines parse saved ∧
        Journal start last m files saved [] v := by
  refine requests_lift fun w h => Program.Ensures.mono (saveFiles_ensures
    (J := fun tried out v => ∃ saved, out = outlines parse saved ∧
      Journal start last m (tried.map Prod.fst) saved [] v) _ ?_ ?_ [] [] ⟨[], rfl, h⟩) ?_
  · rintro tried out w f hf ⟨saved, -, h⟩
    obtain ⟨f, -, rfl⟩ := List.mem_map.1 hf
    exact orderly_some ⟨rfl, h.toMarking, rfl, rfl⟩
  · rintro tried out w f hf t r s ⟨saved, rfl, h⟩ later -
    obtain ⟨f, -, rfl⟩ := List.mem_map.1 hf
    refine ⟨saved ++ idOf f r, ?_, ?_⟩
    · cases r <;> simp [kept, idOf, outlines]
    · simpa using h.writeFile (r := r) later
  · rintro more v ⟨saved, hmore, h⟩
    have all : ([] ++ files.map fun f => (f, Outline.ofFile parse f)).map Prod.fst = files := by
      simp [Function.comp_def]
    exact ⟨saved, hmore, all ▸ h⟩

lemma requests_sweep {step : AnalysisStep} (item : o.isItem = false)
    (sweeps : o = .markUnseen a m ∨ o = .pruneSymbols a m) :
    Requests parse a start last tree (need step o) (Journal start last m files saved symbols)
      fun _ v => Journal start last m files saved symbols v ∧ Did o v.trace := by
  refine requests_need (fun w h => ?_) item fun w t x s h later =>
    ⟨h.sweep later sweeps, did_answered⟩
  rcases sweeps with rfl | rfl <;> exact ⟨rfl, h.toMarking⟩

lemma requests_fileStage {disk : Disk} {services : Inference.Services} {root : String}
    {options : AnalysisOptions} {reached : Nat}
    (htree : filesAt disk root ⟨options.maxDepth, options.maxFileBytes⟩ = tree)
    (hparse : services.libraries.parse = parse) :
    Requests parse a start last tree (fileStage disk services root a last options reached)
      (Unmarked start) fun (_, m, out) v =>
        ∃ saved, out = outlines parse saved ∧ Filed a start last tree m saved [] v := by
  subst hparse
  refine (requests_report unmarked_quiet).bind fun _ => (requests_time unmarked_quiet).bind
    fun now => ?_
  refine Requests.bind (M := fun files v => tree = .ok files ∧
    Journal start last (marker now last) [] [] [] v) ?_ fun files => ?_
  · rintro w ⟨h, rfl⟩
    exact .of_except (fun files hfiles => ⟨htree.symm.trans hfiles, h.journal⟩)
      fun e he => .inr (htree.symm.trans he)
  rintro w ⟨readable, h⟩
  refine (requests_saveFiles files w h).bind fun out v ⟨saved, hout, h⟩ => ?_
  have filed_quiet : Quiet fun v => Journal start last (marker now last) files saved [] v ∧
      Did (.markUnseen a (marker now last)) v.trace := journal_quiet.and did_quiet
  exact (requests_sweep rfl (.inl rfl) v h).bind fun _ v h =>
    (requests_report filed_quiet v h).bind fun _ v h => .of_pure ⟨saved, hout, files, readable, h⟩

/-- The symbols that were parsed from files. -/
def symbolsOf (parse : Outline.Script.Parser) (saved : List (Int × SourceFile)) :
    List (Int × CodeSymbol) :=
  saved.flatMap fun x => (Outline.ofFile parse x.2).symbols.map fun y => (x.1, y)

lemma filed_quiet : Quiet (Filed a start last tree m saved symbols) where
  read := by
    rintro w t ⟨files, readable, h⟩ later
    exact ⟨files, readable, (journal_quiet.and did_quiet).read w t h later⟩
  answered := by
    rintro w t o r s ⟨files, readable, h⟩ later unmarked
    exact ⟨files, readable, (journal_quiet.and did_quiet).answered w t o r s h later unmarked⟩

lemma mem_symbolsOf {y : Int × CodeSymbol} (h : y ∈ symbolsOf parse saved) :
    ∃ f, (y.1, f) ∈ saved := by
  obtain ⟨x, hx, hy⟩ := List.mem_flatMap.1 h
  obtain ⟨z, -, rfl⟩ := List.mem_map.1 hy
  exact ⟨x.2, hx⟩

lemma requests_symbolStage {reached : Nat} :
    Requests parse a start last tree (symbolStage a m (outlines parse saved) reached)
      (Filed a start last tree m saved []) fun _ v =>
        Filed a start last tree m saved (symbolsOf parse saved) v ∧
          Did (.pruneSymbols a m) v.trace := by
  have all : ((outlines parse saved).flatMap fun file => file.2.symbols.map fun y => (file.1, y)) =
      symbolsOf parse saved := by
    simp [outlines, symbolsOf, List.flatMap_map]
  refine (requests_report filed_quiet).bind fun _ => Requests.bind
    (M := fun _ v => Filed a start last tree m saved (symbolsOf parse saved) v)
    (requests_lift fun w h => ?_) fun _ => Requests.bind
    (M := fun _ v => Filed a start last tree m saved (symbolsOf parse saved) v ∧
      Did (.pruneSymbols a m) v.trace) (requests_need ?_ rfl ?_) fun _ =>
    requests_report (filed_quiet.and did_quiet)
  · rw [all]
    refine saveSymbols_ensures (J := fun tried v => Filed a start last tree m saved tried v) _ ?_ ?_
      [] h
    · rintro tried w y hy ⟨files, -, h, -⟩
      obtain ⟨f, hf⟩ := mem_symbolsOf hy
      exact orderly_some ⟨rfl, h.toMarking, f, h.saved ▸ hf⟩
    · rintro tried w y hy t r s ⟨files, readable, h, e, he, did⟩ later -
      exact ⟨files, readable, h.writeSymbol later, e, List.mem_append_left _ he, did⟩
  · rintro w ⟨files, -, h, -⟩
    exact ⟨rfl, h.toMarking⟩
  · rintro w t x s ⟨files, readable, h, e, he, did⟩ later
    exact ⟨⟨files, readable, h.sweep later (.inr rfl), e, List.mem_append_left _ he, did⟩,
      did_answered⟩

lemma requests_edgeStage {reached : Nat} (quiet : Quiet K) :
    Requests parse a start last tree (edgeStage a reached) K fun _ v => K v :=
  (requests_report quiet).bind fun _ =>
    (requests_quiet quiet (by simp [Asks]) rfl rfl).bind fun _ =>
    (requests_quiet quiet (by simp [Asks]) rfl rfl).bind fun _ =>
    (requests_quiet quiet (by simp [Asks]) rfl rfl).bind fun _ =>
    (requests_report quiet).bind fun _ => requests_pure fun _ h => h

lemma requests_embeddingStage {services : Inference.Services} {files : List StoredFile}
    {symbols : List StoredSymbol} {options : AnalysisOptions} {reached : Nat} (quiet : Quiet K) :
    Requests parse a start last tree (embeddingStage services a files symbols options reached) K
      fun _ v => K v :=
  (requests_report quiet).bind fun _ =>
    (requests_quiet quiet (by simp [Asks]) rfl rfl).bind fun _ =>
    (requests_quiet quiet (by simp [Asks]) rfl rfl).bind fun _ => requests_report quiet

lemma requests_finalStage (quiet : Quiet K) :
    Requests parse a start last tree (finalStage a) K fun _ v => K v := by
  refine (requests_quiet quiet (by simp [Asks]) rfl rfl).bind fun _ =>
    (requests_time quiet).bind fun now => Requests.bind (M := fun _ v => K v)
    (requests_need (fun w h => ⟨rfl, h.2⟩) rfl fun w t x s h later => ?_) fun _ =>
    (requests_quiet quiet (by simp [Asks]) rfl rfl).bind fun _ => requests_pure fun _ h => h
  exact quiet.answered w t _ _ s h.1 later rfl

/-- What a run that succeeds has asked. -/
def Complete (parse : Outline.Script.Parser) (a start : Int) (last : Option Int)
    (tree : Except AnalysisError (List SourceFile)) (v : World) : Prop :=
  ∃ m saved, Filed a start last tree m saved (symbolsOf parse saved) v ∧
    Did (.pruneSymbols a m) v.trace

lemma requests_stages {disk : Disk} {services : Inference.Services} {subject : Subject}
    {options : AnalysisOptions}
    (htree : filesAt disk subject.rootPath ⟨options.maxDepth, options.maxFileBytes⟩ = tree)
    (hparse : services.libraries.parse = parse) :
    Requests parse subject.id start subject.lastAnalyzedAt tree
      (stages disk services subject options) (Unmarked start)
      fun _ v => Complete parse subject.id start subject.lastAnalyzedAt tree v := by
  refine (requests_report unmarked_quiet).bind fun _ =>
    (requests_commitStage unmarked_quiet).bind fun _ => (requests_fileStage htree hparse).bind
    fun ⟨_, m, out⟩ => ?_
  rintro w ⟨saved, rfl, h⟩
  have quiet : Quiet fun v => Filed subject.id start subject.lastAnalyzedAt tree m saved
      (symbolsOf parse saved) v ∧ Did (.pruneSymbols subject.id m) v.trace :=
    filed_quiet.and did_quiet
  exact (requests_symbolStage w h).bind fun _ v h => (requests_edgeStage quiet v h).bind
    fun ⟨_, _⟩ v h => (requests_embeddingStage quiet v h).bind fun _ v h =>
    EnsuresOr.mono (requests_finalStage quiet v h) (fun _ _ h => ⟨m, saved, h⟩) fun _ _ h => h

/-- What a run asks. A run that fails was rejected, or is to blame on an operation, or on the
working tree. -/
theorem run_requests {disk : Disk} {services : Inference.Services} {options : AnalysisOptions}
    (fresh : w.trace = []) (loaded : ∀ subject, w.store.getSubject a = .ok (some subject) →
      subject.lastAnalyzedAt = last ∧
        filesAt disk subject.rootPath ⟨options.maxDepth, options.maxFileBytes⟩ = tree) :
    EnsuresOr (Orderly services.libraries.parse a w.time last)
      (fun _ v => Complete services.libraries.parse a w.time last tree v)
      (fun e v => Rejected w.store a options.force v ∨ Blamed v ∨ tree = .error e)
      (run disk services a options) w := by
  refine EnsuresOr.bind (EnsuresOr.mono (subjectToAnalyze_ensures fresh
    (orderly_some trivial)) (fun _ _ hv => hv) fun _ _ hv => .inl hv) fun subject v hv => ?_
  obtain ⟨-, later, trace, found, -⟩ := hv
  obtain ⟨rfl, htree⟩ := loaded subject found
  obtain rfl := Store.getSubject_id found
  have unmarked : Unmarked w.time v := by
    refine ⟨later, fun e he => ?_⟩
    rw [trace] at he
    cases List.mem_singleton.1 he
    rfl
  refine EnsuresOr.tryCatch (requests_stages htree rfl v unmarked) fun e u hu => ?_
  refine EnsuresOr.bind (M := fun _ x => Blamed x ∨ tree = .error e) ?_
    fun _ x hx => .of_throw (.inr hx)
  refine .of_lift (Program.ensures_bind.2 (Program.ensures_request.2 ⟨orderly_some rfl, ?_⟩))
  intro t later r s answers
  refine hu.imp_left fun ⟨e, he, failed⟩ => ⟨e, List.mem_append_left _ he, failed⟩

end Analysis

end CodeAtlas
