import CodeAtlas.Proofs.Documents

/-! # Documents that are refused

A list or a record is refused if a part of it is, behind parts that are read. So an answer is not
read again that has a score which is not finite, and no document is that is nested too deep. -/
namespace CodeAtlas

namespace Json

variable {α β σ : Type} {a : α} {c : Cursor} {cs rest : List Char}

/-- Nothing is read of a text, whatever stands behind it. -/
def Refuses (read : Reader α) (cs : List Char) : Prop :=
  ∀ c rest, c.rest = cs ++ rest → ∃ e, read c = .error e

lemma fails_bind {r : Except ReadError α} {f : α → Except ReadError β} (h : ∃ e, r = .error e) :
    ∃ e, r >>= f = .error e := by
  obtain ⟨e, rfl⟩ := h
  exact ⟨e, rfl⟩

/-- What comes behind a value that is read fails. -/
lemma Leaves.fails {r : Except ReadError (α × Cursor)} {f : α × Cursor → Except ReadError β}
    (h : Leaves r a rest) (next : ∀ c, c.rest = rest → ∃ e, f (a, c) = .error e) :
    ∃ e, r >>= f = .error e := by
  obtain ⟨c, rfl, left⟩ := h
  exact next c left

section Lists

variable {item : Reader α} {write : α → Json} {front back : List α} {fuel : Nat}

lemma fails_readItems (reads : ∀ a ∈ front, ReadsBack item (chars (write a)) a)
    (begins : ∀ a, BeginsItem (chars (write a))) (refused : Refuses item (chars (write a)))
    (h : c.rest = moreItems ((front ++ a :: back).map write) ++ rest) :
    ∃ e, readItems item fuel false c = .error e := by
  induction front generalizing c fuel with
  | nil =>
    cases fuel with
    | zero => exact ⟨_, rfl⟩
    | succ fuel =>
      rw [List.nil_append, List.map_cons, moreItems, itemChars_cons, List.cons_append,
        List.append_assoc] at h
      rw [readItems]
      exact (leaves_nextItem_comma (begins a) h).fails fun c left => fails_bind (refused c _ left)
  | cons b front ih =>
    obtain ⟨readsHere, readsThere⟩ := List.forall_mem_cons.1 reads
    cases fuel with
    | zero => exact ⟨_, rfl⟩
    | succ fuel =>
      rw [List.cons_append, List.map_cons, moreItems, itemChars_cons, List.cons_append,
        List.append_assoc] at h
      rw [readItems]
      refine (leaves_nextItem_comma (begins b) h).fails fun c left => ?_
      refine (readsHere c _ left (ends_moreItems _ _)).fails fun c left => ?_
      exact fails_bind (ih readsThere left)

lemma fails_allItems (reads : ∀ a ∈ front, ReadsBack item (chars (write a)) a)
    (begins : ∀ a, BeginsItem (chars (write a))) (refused : Refuses item (chars (write a)))
    (h : c.rest = itemChars ((front ++ a :: back).map write) ++ rest) :
    ∃ e, readItems item fuel true c = .error e := by
  cases fuel with
  | zero => exact ⟨_, rfl⟩
  | succ fuel =>
    rw [readItems]
    cases front with
    | nil =>
      rw [List.nil_append, List.map_cons, itemChars_cons, List.append_assoc] at h
      exact (leaves_nextItem_first (begins a) h).fails fun c left => fails_bind (refused c _ left)
    | cons b front =>
      obtain ⟨readsHere, readsThere⟩ := List.forall_mem_cons.1 reads
      rw [List.cons_append, List.map_cons, itemChars_cons, List.append_assoc] at h
      refine (leaves_nextItem_first (begins b) h).fails fun c left => ?_
      refine (readsHere c _ left (ends_moreItems _ _)).fails fun c left => ?_
      exact fails_bind (fails_readItems readsThere begins refused left)

/-- A list is refused with an item of which nothing is read, behind items that are read. -/
lemma refuses_readList (reads : ∀ a ∈ front, ReadsBack item (chars (write a)) a)
    (begins : ∀ a, BeginsItem (chars (write a))) (refused : Refuses item (chars (write a))) :
    Refuses (readList item) (chars (.array ((front ++ a :: back).map write))) := by
  intro c rest h
  rw [chars, List.cons_append] at h
  obtain ⟨same, here, inside⟩ := Cursor.ahead h (by decide)
  unfold readList
  simp only [same, here]
  exact fails_bind (fails_allItems reads begins refused inside)

end Lists

/-! ## Records -/

section Records

variable {r : RecordShape σ α} {st st' : σ} {key : String} {j : Json}
  {front back : List (String × Json)} {field : Reader σ} {fuel : Nat}

lemma fails_readFields_step {first : Bool} (known : r.fields.contains key = true)
    (taken : r.take key st = some field)
    (next : Leaves (nextField first c) true
      ('"' :: (key.toList.flatMap escapeChar ++
        '"' :: ':' :: (chars j ++ (moreFields back ++ rest)))))
    (later : ∀ c, c.rest = chars j ++ (moreFields back ++ rest) →
      ∃ e, (field c >>= fun x => r.readFields fuel false x.1 x.2) = .error e) :
    ∃ e, r.readFields (fuel + 1) first st c = .error e := by
  rw [RecordShape.readFields]
  refine next.fails fun c left => ?_
  refine (leaves_readStringBody (Cursor.rest_next left)).fails fun c left => ?_
  simp only [known, taken, if_true]
  exact (leaves_readColon left).fails later

lemma Takes.fails (h : Takes r st front st') (known : r.fields.contains key = true)
    (taken : r.take key st' = some field) (refused : Refuses field (chars j))
    (text : c.rest = moreFields (front ++ (key, j) :: back) ++ rest) :
    ∃ e, r.readFields fuel false st c = .error e := by
  induction h generalizing c fuel with
  | nil st =>
    cases fuel with
    | zero => exact ⟨_, rfl⟩
    | succ fuel =>
      rw [List.nil_append, moreFields, List.cons_append, fieldChars_append] at text
      exact fails_readFields_step known taken (leaves_nextField_comma text)
        fun c left => fails_bind (refused c _ left)
  | cons known' taken' reads later ih =>
    cases fuel with
    | zero => exact ⟨_, rfl⟩
    | succ fuel =>
      rw [List.cons_append, moreFields, List.cons_append, fieldChars_append] at text
      exact fails_readFields_step known' taken' (leaves_nextField_comma text) fun c left =>
        (reads c _ left (ends_moreFields _ _)).fails fun c left => ih taken left

/-- A record is refused with a field of which nothing is read, behind fields that are read. -/
lemma Takes.refuses (h : Takes r r.start front st) (key : String) (back : List (String × Json))
    (known : r.fields.contains key = true) (taken : r.take key st = some field)
    (refused : Refuses field (chars j)) :
    Refuses r.read (chars (.object (front ++ (key, j) :: back))) := by
  intro c rest text
  rw [chars, List.cons_append] at text
  obtain ⟨same, here, inside⟩ := Cursor.ahead text (by decide)
  unfold RecordShape.read
  simp only [same, here]
  refine fails_bind ?_
  generalize r.start = start at h
  cases h with
  | nil =>
    rw [List.nil_append, fieldChars_append] at inside
    exact fails_readFields_step known taken (leaves_nextField_first inside)
      fun c left => fails_bind (refused c _ left)
  | cons known' taken' reads later =>
    rw [List.cons_append, fieldChars_append] at inside
    exact fails_readFields_step known' taken' (leaves_nextField_first inside) fun c left =>
      (reads c _ left (ends_moreFields _ _)).fails
        fun c left => later.fails known taken refused left

end Records

/-! ## Deep documents -/

end Json

namespace Store

open Json Number

/-! ## Scores -/

lemma refuses_score {x : Binary32} (infinite : x.isFinite = false) :
    Refuses readBinary32 (chars (.single x)) := by
  intro c rest h
  rw [Json.single, infinite, if_neg Bool.false_ne_true] at h
  obtain ⟨same, here, left⟩ := Cursor.ahead (show c.rest = 'n' :: _ from h) (by decide)
  unfold readBinary32 readNumberAs
  simp only [same, here]
  unfold refuse
  simp only [here]
  exact (leaves_readWord left).fails fun c _ => ⟨_, rfl⟩

lemma refuses_fileSource {x : FileSource} (infinite : x.relevance.isFinite = false) :
    Refuses fileShape.read (chars x.toJson) := by
  have before : Takes fileShape fileShape.start [("path", .string x.path)] ⟨some x.path, none⟩ :=
    takes_field (·.path.isSome) (fun v d => { d with path := some v }) rfl rfl rfl
      (readsBack_readString _) (.nil _)
  exact before.refuses "relevance" [] rfl rfl
    fun c rest h => fails_bind (refuses_score infinite c rest h)

lemma refuses_functionSource {x : FunctionSource} (startLine : x.startLine < 0x10000000000000000)
    (endLine : x.endLine < 0x10000000000000000) (infinite : x.relevance.isFinite = false) :
    Refuses functionShape.read (chars x.toJson) := by
  have before : Takes functionShape functionShape.start
      [("name", .string x.name), ("file_path", .string x.filePath),
        ("start_line", .nat x.startLine), ("end_line", .nat x.endLine)]
      ⟨some x.name, some x.filePath, some x.startLine, some x.endLine, none⟩ := by
    refine takes_field (·.name.isSome) (fun v d => { d with name := some v }) rfl rfl rfl
      (readsBack_readString _) ?_
    refine takes_field (·.filePath.isSome) (fun v d => { d with filePath := some v }) rfl rfl rfl
      (readsBack_readString _) ?_
    refine takes_field (·.startLine.isSome) (fun v d => { d with startLine := some v }) rfl rfl rfl
      (readsBack_readUsize startLine) ?_
    refine takes_field (·.endLine.isSome) (fun v d => { d with endLine := some v }) rfl rfl rfl
      (readsBack_readUsize endLine) ?_
    exact .nil _
  exact before.refuses "relevance" [] rfl rfl
    fun c rest h => fails_bind (refuses_score infinite c rest h)

lemma refuses_commitSource {x : CommitSource} (infinite : x.relevance.isFinite = false) :
    Refuses commitShape.read (chars x.toJson) := by
  have before : Takes commitShape commitShape.start
      [("hash", .string x.hash), ("message", .string x.message)]
      ⟨some x.hash, some x.message, none⟩ := by
    refine takes_field (·.hash.isSome) (fun v d => { d with hash := some v }) rfl rfl rfl
      (readsBack_readString _) ?_
    refine takes_field (·.message.isSome) (fun v d => { d with message := some v }) rfl rfl rfl
      (readsBack_readString _) ?_
    exact .nil _
  exact before.refuses "relevance" [] rfl rfl
    fun c rest h => fails_bind (refuses_score infinite c rest h)

lemma refuses_chunk {x : ContextChunk} (infinite : x.score.isFinite = false) :
    Refuses chunkShape.read (chars x.toJson) := by
  have before : Takes chunkShape chunkShape.start
      [("content", .string x.content), ("source", .string x.source)]
      ⟨some x.content, some x.source, none⟩ := by
    refine takes_field (·.content.isSome) (fun v d => { d with content := some v }) rfl rfl rfl
      (readsBack_readString _) ?_
    refine takes_field (·.source.isSome) (fun v d => { d with source := some v }) rfl rfl rfl
      (readsBack_readString _) ?_
    exact .nil _
  exact before.refuses "score" [] rfl rfl
    fun c rest h => fails_bind (refuses_score infinite c rest h)

/-- A list of what has scores is refused with the first of them that is not finite. -/
lemma refuses_scored {α : Type} {item : Reader α} {write : α → Json} {score : α → Binary32}
    {xs : List α}
    (reads : ∀ x ∈ xs, ScoreTold (score x) → ReadsBack item (chars (write x)) x)
    (refused : ∀ x ∈ xs, (score x).isFinite = false → Refuses item (chars (write x)))
    (begins : ∀ x, BeginsItem (chars (write x)))
    (told : ∀ x ∈ xs, (score x).isFinite = true → ScoreTold (score x))
    (infinite : ∃ x ∈ xs, (score x).isFinite = false) :
    Refuses (readList item) (chars (.array (xs.map write))) := by
  obtain ⟨y, found⟩ : ∃ y, xs.find? (fun x => !(score x).isFinite) = some y := by
    rw [← Option.isSome_iff_exists, List.find?_isSome]
    simpa using infinite
  obtain ⟨first, front, back, rfl, finite⟩ := List.find?_eq_some_iff_append.1 found
  refine refuses_readList (fun x mem => ?_) begins (refused y (by simp) (by simpa using first))
  have there : x ∈ front ++ y :: back := List.mem_append_left _ mem
  exact reads x there (told x there (by simpa using finite x mem))

/-- Of finite scores each is told, as all of them are if none is not finite. -/
lemma told_of_finite {α : Type} {score : α → Binary32} {xs : List α}
    (told : ∀ x ∈ xs, (score x).isFinite = true → ScoreTold (score x))
    (finite : ¬ ∃ x ∈ xs, (score x).isFinite = false) : ∀ x ∈ xs, ScoreTold (score x) := by
  intro x mem
  refine told x mem ?_
  by_contra infinite
  exact finite ⟨x, mem, by simpa using infinite⟩

lemma refuses_sources {x : AnswerSources} (fits : SourcesFit x)
    (told : ∀ score ∈ sourceScores x, score.isFinite = true → ScoreTold score)
    (infinite : ∃ score ∈ sourceScores x, score.isFinite = false) :
    Refuses sourcesShape.read (chars x.toJson) := by
  obtain ⟨filesTold, functionsTold, commitsTold⟩ := forall_sourceScores.1 told
  by_cases files : ∃ f ∈ x.files, f.relevance.isFinite = false
  · have refused := refuses_scored (fun _ _ => readsBack_fileSource)
      (fun _ _ => refuses_fileSource) (fun _ => beginsItem_object _) filesTold files
    exact (Takes.nil _).refuses "files" _ rfl rfl
      fun c rest h => fails_bind (refused c rest h)
  have filesRead := readsBack_readList
    (fun f mem => readsBack_fileSource (told_of_finite filesTold files f mem))
    fun _ _ => beginsItem_object _
  by_cases functions : ∃ f ∈ x.functions, f.relevance.isFinite = false
  · have refused := refuses_scored
      (fun f mem => readsBack_functionSource (fits.lines f mem).1 (fits.lines f mem).2)
      (fun f mem => refuses_functionSource (fits.lines f mem).1 (fits.lines f mem).2)
      (fun _ => beginsItem_object _) functionsTold functions
    have before : Takes sourcesShape sourcesShape.start
        [("files", .array (x.files.map FileSource.toJson))] ⟨some x.files, none, none, none⟩ :=
      takes_field (·.files.isSome) (fun v d => { d with files := some v }) rfl rfl rfl
        filesRead (.nil _)
    exact before.refuses "functions" _ rfl rfl fun c rest h => fails_bind (refused c rest h)
  have functionsRead := readsBack_readList (fun f mem => readsBack_functionSource
    (fits.lines f mem).1 (fits.lines f mem).2 (told_of_finite functionsTold functions f mem))
    fun _ _ => beginsItem_object _
  have commits : ∃ c ∈ x.commits, c.relevance.isFinite = false := by
    by_contra commits
    obtain ⟨score, mem, is_infinite⟩ := infinite
    have finite : ∀ score ∈ sourceScores x, score.isFinite = true :=
      forall_sourceScores.2 ⟨by simpa using files, by simpa using functions, by simpa using commits⟩
    rw [finite score mem] at is_infinite
    cases is_infinite
  have refused := refuses_scored (fun _ _ => readsBack_commitSource)
    (fun _ _ => refuses_commitSource) (fun _ => beginsItem_object _) commitsTold commits
  have before : Takes sourcesShape sourcesShape.start
      [("files", .array (x.files.map FileSource.toJson)),
        ("functions", .array (x.functions.map FunctionSource.toJson))]
      ⟨some x.files, some x.functions, none, none⟩ := by
    refine takes_field (·.files.isSome) (fun v d => { d with files := some v }) rfl rfl rfl
      filesRead ?_
    refine takes_field (·.functions.isSome) (fun v d => { d with functions := some v }) rfl rfl rfl
      functionsRead ?_
    exact .nil _
  exact before.refuses "commits" _ rfl rfl fun c rest h => fails_bind (refused c rest h)

/-! ## Columns -/

lemma not_reads_of_refuses {α : Type} {toJson : α → Json} {read : Reader α} {a : α}
    (refused : Refuses read (chars (toJson a))) : ¬ (documentCodec toJson read).Reads a := by
  have text : (Cursor.start (toJson a).render.toList).rest = chars (toJson a) ++ [] := by
    rw [List.append_nil]
    exact String.toList_ofList
  obtain ⟨e, eq⟩ := refused _ _ text
  rintro ⟨b, reads⟩
  simp only [documentCodec, readAll, eq] at reads
  cases reads

theorem not_reads_sources {x : AnswerSources} (fits : SourcesFit x)
    (told : ∀ score ∈ sourceScores x, score.isFinite = true → ScoreTold score)
    (infinite : ∃ score ∈ sourceScores x, score.isFinite = false) : ¬ sources.Reads x :=
  not_reads_of_refuses (refuses_sources fits told infinite)

theorem not_reads_context {xs : List ContextChunk}
    (told : ∀ x ∈ xs, x.score.isFinite = true → ScoreTold x.score)
    (infinite : ∃ x ∈ xs, x.score.isFinite = false) : ¬ context.Reads xs :=
  not_reads_of_refuses <| refuses_scored (fun _ _ => readsBack_chunk) (fun _ _ => refuses_chunk)
    (fun _ => beginsItem_object _) told infinite

end Store

end CodeAtlas
