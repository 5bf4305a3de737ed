import CodeAtlas.Proofs.Replacement
import CodeAtlas.Proofs.Walks

/-! # Paths of walked files

The path of a file is the text of its names, where bytes that are no text are replaced, with slashes
for backslashes. Two files have the same path just if their names, cut at backslashes, read the
same. -/
namespace CodeAtlas

namespace Text

/-! ## Slashes in bytes -/

variable {n count low high value used : Nat} {b : UInt8} {bs rest : List UInt8}

lemma replacement_ne_slash : replacement ≠ '/' := by decide

lemma eq_of_ofNat_eq_slash (h : Char.ofNat n = '/') : n = 47 := by
  unfold Char.ofNat at h
  split at h
  next valid =>
    have same : (Char.ofNatAux n valid).toNat = 47 := congrArg Char.toNat h
    exact same
  next => cases congrArg Char.toNat h

/-- Once the value of a character is beyond ASCII, it stays there. -/
lemma readFollowing_ne_slash (h : 47 < value * 64 ^ count) :
    (readFollowing count low high value used bs).1 ≠ '/' := by
  induction count generalizing low high value used bs with
  | zero =>
    intro slash
    have := eq_of_ofNat_eq_slash slash
    omega
  | succ count ih =>
    cases bs with
    | nil => exact replacement_ne_slash
    | cons b bs =>
      unfold readFollowing
      split_ifs
      · refine ih (Nat.lt_of_lt_of_le h ?_)
        rw [Nat.pow_succ, Nat.mul_comm (64 ^ count), ← Nat.mul_assoc]
        exact Nat.mul_le_mul_right _ (Nat.le_add_right _ _)
      · exact replacement_ne_slash

lemma lt_mul_pow (some : 0 < count) (bits : 0 < value) : 47 < value * 64 ^ count := by
  have first : 64 ^ 1 ≤ 64 ^ count := Nat.pow_le_pow_right (by omega) some
  nlinarith

lemma readFollowing_ne_slash_of_bounds (more : 1 < count) (lowest : 0x90 ≤ low)
    (highest : high ≤ 0xBF) : (readFollowing count low high value used bs).1 ≠ '/' := by
  obtain ⟨count, rfl⟩ : ∃ rest, count = rest + 1 := ⟨count - 1, by omega⟩
  cases bs with
  | nil => exact replacement_ne_slash
  | cons b bs =>
    unfold readFollowing
    split_ifs with inside
    · exact readFollowing_ne_slash (lt_mul_pow (by omega) (by omega))
    · exact replacement_ne_slash

/-- A first byte beyond ASCII calls for more. Its own bits put the character beyond ASCII, or where
they are all zero those of the next byte do. -/
lemma following?_beyondAscii (above : 0x80 ≤ n) (h : following? n = some (count, low, high)) :
    0 < count ∧ (0 < leadingValue n count ∨ 1 < count ∧ 0x90 ≤ low ∧ high ≤ 0xBF) := by
  unfold following? at h
  split_ifs at h <;> cases h
  · omega
  all_goals simp only [leadingValue_two, leadingValue_three, leadingValue_four]
  all_goals omega

lemma firstChar_eq_slash (h : (firstChar b rest).1 = '/') : b = 47 := by
  unfold firstChar at h
  by_cases ascii : b.toNat < 0x80
  · rw [following?_one ascii] at h
    exact UInt8.toNat_inj.1 (eq_of_ofNat_eq_slash h)
  · split at h
    next => exact absurd h replacement_ne_slash
    next count low high called =>
      obtain ⟨some, beyond⟩ := following?_beyondAscii (Nat.le_of_not_lt ascii) called
      generalize leadingValue b.toNat count = value at h beyond
      refine absurd h ?_
      rcases beyond with bits | ⟨more, lowest, highest⟩
      · exact readFollowing_ne_slash (lt_mul_pow some bits)
      · exact readFollowing_ne_slash_of_bounds more lowest highest

lemma slash_mem_of_decodeAfter {skip : Nat} (h : '/' ∈ decodeAfter skip bs) : 47 ∈ bs := by
  induction bs generalizing skip with
  | nil => cases skip <;> simp [decodeAfter] at h
  | cons b bs ih =>
    cases skip with
    | succ skip => exact List.mem_cons_of_mem _ (ih h)
    | zero =>
      rcases List.mem_cons.1 h with first | rest
      · rw [firstChar_eq_slash first.symm]
        exact List.mem_cons_self
      · exact List.mem_cons_of_mem _ (ih rest)

/-- Reading bytes as text makes no slash. -/
lemma slash_not_mem_decodeBytes (h : FileTree.slash ∉ bs) : '/' ∉ decodeBytes bs :=
  fun slash => h (slash_mem_of_decodeAfter slash)

/-! ## Cutting paths -/

variable {α : Type} [DecidableEq α] {sep : α} {pieces : List (List α)}

lemma cut_intercalate (h : pieces ≠ []) :
    cut sep ([sep].intercalate pieces) = pieces.flatMap (cut sep) := by
  induction pieces with
  | nil => exact absurd rfl h
  | cons piece pieces ih =>
    cases pieces with
    | nil => simp
    | cons next rest =>
      rw [List.intercalate_cons_cons, List.append_assoc, List.singleton_append, cut_append_cons,
        ih (List.cons_ne_nil _ _)]
      rfl

omit [DecidableEq α] in
lemma map_intercalate {f : α → α} : ([sep].intercalate pieces).map f =
    [f sep].intercalate (pieces.map (List.map f)) := by
  induction pieces with
  | nil => rfl
  | cons piece pieces ih =>
    cases pieces with
    | nil => simp
    | cons next rest =>
      rw [List.intercalate_cons_cons, List.map_append, List.map_append, ih]
      simp only [List.map_cons, List.map_nil, List.intercalate_cons_cons]

/-- The pieces between slashes of a path that was made of names without slashes. -/
lemma cut_slashed_intercalate {names : List (List Char)} (h : names ≠ [])
    (plain : ∀ name ∈ names, '/' ∉ name) :
    cut '/' (slashed ("/".intercalate (names.map String.ofList))).toList =
      names.flatMap (cut '\\') := by
  have path : (slashed ("/".intercalate (names.map String.ofList))).toList =
      ['/'].intercalate (names.map (List.map fun c => if c = '\\' then '/' else c)) := by
    have same : String.toList ∘ String.ofList = id := funext fun _ => String.toList_ofList
    rw [slashed, String.toList_map, String.toList_intercalate, List.map_map, same, List.map_id]
    exact map_intercalate
  rw [path, cut_intercalate (by simpa using h), List.flatMap_map]
  exact List.flatMap_congr fun name mem => cut_map_replace (plain name mem)

end Text

namespace FileTree

variable {t c : FileTree} {place : List FileName}

/-- All names in a tree are names that an entry may have. -/
def HasNames (t : FileTree) : Prop := t.Throughout fun entries => ∀ e ∈ entries, IsName e.1

lemma HasNames.isName (h : t.HasNames) (there : t.at? place = some c) :
    ∀ name ∈ place, IsName name := by
  induction place generalizing t with
  | nil => simp
  | cons name rest ih =>
    cases t with
    | file | link => simp [at?, child?] at there
    | directory entries =>
      rw [at?_cons, Option.bind_eq_some_iff] at there
      obtain ⟨d, found, there⟩ := there
      intro n hn
      rcases List.mem_cons.1 hn with rfl | hn
      · exact Throughout.here h _ (mem_of_lookup found)
      · exact ih (Throughout.child h found) there n hn

end FileTree

namespace Files

open FileTree

variable {limits : WalkLimits} {depth : Nat} {root : FileTree} {place place' : List FileName}
  {text text' : String}

/-- How the names of a place read, where what is between backslashes is a name as well. -/
def shownParts (place : List FileName) : List (List Char) :=
  place.flatMap fun name => Text.cut '\\' (Text.decodeBytes name)

lemma IsSource.ne_nil {entries : List (FileName × FileTree)}
    (h : IsSource limits depth (directory entries) place text) : place ≠ [] := by
  rintro rfl
  cases h.there

lemma cut_path (h : place ≠ []) (names : ∀ name ∈ place, IsName name) :
    Text.cut '/' (sourceAt place text).path.toList = shownParts place := by
  have plain : ∀ name ∈ place.map Text.decodeBytes, '/' ∉ name := by
    intro name mem
    obtain ⟨bytes, listed, rfl⟩ := List.mem_map.1 mem
    exact Text.slash_not_mem_decodeBytes (names bytes listed).noSlash
  have cut := Text.cut_slashed_intercalate (by simpa using h) plain
  rw [List.map_map, List.flatMap_map] at cut
  exact cut

/-- Two files have the same path just if their names read the same. -/
lemma IsSource.path_eq_iff {entries : List (FileName × FileTree)}
    (names : (directory entries).HasNames)
    (h : IsSource limits depth (directory entries) place text)
    (h' : IsSource limits depth (directory entries) place' text') :
    (sourceAt place text).path = (sourceAt place' text').path ↔
      shownParts place = shownParts place' := by
  rw [← cut_path h.ne_nil (names.isName h.there), ← cut_path h'.ne_nil (names.isName h'.there),
    Text.cut_inj, String.toList_inj]

/-- A text without backslashes reads as itself. -/
lemma cut_decodeBytes {name : FileName} (isText : IsText name) (plain : backslash ∉ name) :
    Text.cut '\\' (Text.decodeBytes name) = [Text.decodeBytes name] := by
  obtain ⟨text, rfl⟩ := isText
  rw [Text.toBytes_eq] at plain ⊢
  rw [Text.decodeBytes_encode]
  refine Text.cut_of_not_mem fun mem => plain ?_
  exact List.mem_flatMap.2 ⟨'\\', mem, by decide⟩

lemma shownParts_inj (plain : ∀ name ∈ place, IsText name ∧ backslash ∉ name)
    (plain' : ∀ name ∈ place', IsText name ∧ backslash ∉ name) :
    shownParts place = shownParts place' ↔ place = place' := by
  have read : ∀ {place : List FileName}, (∀ name ∈ place, IsText name ∧ backslash ∉ name) →
      (shownParts place).map (fun part => Text.toBytes (String.ofList part)) = place := by
    intro place plain
    induction place with
    | nil => rfl
    | cons name rest ih =>
      obtain ⟨⟨isText, noBackslash⟩, plainRest⟩ := List.forall_mem_cons.1 plain
      have first : Text.toBytes (String.ofList (Text.decodeBytes name)) = name := by
        obtain ⟨text, rfl⟩ := isText
        rw [Text.toBytes_inj]
        exact Text.ofBytes_toBytes text
      rw [shownParts, List.flatMap_cons, cut_decodeBytes isText noBackslash, List.map_append,
        List.map_singleton, first]
      exact congrArg (name :: ·) (ih plainRest)
  refine ⟨fun same => ?_, fun same => same ▸ rfl⟩
  rw [← read plain, same, read plain']

/-- No path is given twice just if no two walked files have names that read the same. -/
lemma nodup_paths_iff (limits : WalkLimits) {entries : List (FileName × FileTree)}
    (distinct : (directory entries).IsDistinct) (names : (directory entries).HasNames) :
    ((walkEntries limits limits.maxDepth "" entries).map SourceFile.path).Nodup ↔
      ∀ {place text place' text'},
        IsSource limits limits.maxDepth (directory entries) place text →
        IsSource limits limits.maxDepth (directory entries) place' text' →
        shownParts place = shownParts place' → place = place' := by
  obtain ⟨found, sorted, mem, eq⟩ := walkEntries_eq_map limits distinct
  have once : found.Nodup := sorted.imp fun before same => by
    rw [same] at before
    exact List.lt_irrefl _ before
  have paths : (walkEntries limits limits.maxDepth "" entries).map SourceFile.path =
      found.map fun f => (sourceAt f.1 f.2).path := by
    rw [eq, List.map_map]
    rfl
  rw [paths, List.nodup_map_iff_inj_on once]
  constructor
  · intro inj place text place' text' source source' same
    exact congrArg Prod.fst (inj _ ((mem _ _).2 source) _ ((mem _ _).2 source')
      ((source.path_eq_iff names source').2 same))
  · rintro inj ⟨place, text⟩ hf ⟨place', text'⟩ hf' path
    have source := (mem _ _).1 hf
    have source' := (mem _ _).1 hf'
    have same := inj source source' ((source.path_eq_iff names source').1 path)
    subst same
    have content := Option.some.inj (source.there.symm.trans source'.there)
    rw [toUTF8_inj.1 (FileTree.file.inj content)]

/-- The paths of the files that a walk gives are distinct, and so a table by paths keeps each of
them, just if no two of these files have names that read the same when they are cut at backslashes.
They are whenever the names are texts without backslashes. -/
theorem walk_separates_iff (limits : WalkLimits) {entries : List (FileName × FileTree)}
    (distinct : (directory entries).IsDistinct) (names : (directory entries).HasNames) :
    ∃ files, walk limits (directory entries) = .ok files ∧
      ((files.map SourceFile.path).Nodup ↔ ∀ {place text place' text'},
        IsSource limits limits.maxDepth (directory entries) place text →
        IsSource limits limits.maxDepth (directory entries) place' text' →
        shownParts place = shownParts place' → place = place') ∧
      ((files.map SourceFile.path).Nodup ↔ latest SourceFile.path files = files) ∧
      ((∀ {place text}, IsSource limits limits.maxDepth (directory entries) place text →
        ∀ name ∈ place, IsText name ∧ backslash ∉ name) → (files.map SourceFile.path).Nodup) := by
  have separate := nodup_paths_iff limits distinct names
  refine ⟨_, rfl, separate, latest_eq_self_iff.symm, fun plain => separate.2 ?_⟩
  intro place text place' text' source source' same
  exact (shownParts_inj (plain source) (plain source')).1 same

/-- Bytes that are no text read the same, whatever they are. -/
example : shownParts [[0xFF]] = shownParts [[0xFE]] := by decide

section Example

/-- A file in a directory, and a file whose name has a backslash. -/
def twinFiles : List (FileName × FileTree) := [
  ([97], .directory [([98], .file "x".toUTF8)]),
  ([97, 92, 98], .file "y".toUTF8)]

lemma isDistinct_twinFiles : (directory twinFiles).IsDistinct := by
  refine throughout_directory (by decide) ?_
  simp only [twinFiles, List.forall_mem_cons]
  exact ⟨throughout_directory (by simp) (by simp [throughout_file]), throughout_file _, by simp⟩

lemma hasNames_twinFiles : (directory twinFiles).HasNames := by
  have a : IsName [97] := ⟨by decide, by decide, by decide⟩
  have b : IsName [98] := ⟨by decide, by decide, by decide⟩
  have twin : IsName [97, 92, 98] := ⟨by decide, by decide, by decide⟩
  refine throughout_directory (by simp [twinFiles, a, twin]) ?_
  simp only [twinFiles, List.forall_mem_cons]
  exact ⟨throughout_directory (by simp [b]) (by simp [throughout_file]), throughout_file _,
    by simp⟩

lemma isSource_inner : IsSource {} 10 (directory twinFiles) [[97], [98]] "x" :=
  .of_tests rfl (by decide) (by decide +kernel) rfl (by decide +kernel) (by decide +kernel)

lemma isSource_outer : IsSource {} 10 (directory twinFiles) [[97, 92, 98]] "y" :=
  .of_tests rfl (by decide) (by decide +kernel) rfl (by decide +kernel) (by decide +kernel)

lemma shownParts_twinFiles : shownParts [[97], [98]] = shownParts [[97, 92, 98]] := by decide

/-- A table by paths does not keep both files. -/
theorem walk_separates_iff_twinFiles :
    (directory twinFiles).IsDistinct ∧ (directory twinFiles).HasNames ∧
      ∃ files, walk {} (directory twinFiles) = .ok files ∧
        latest SourceFile.path files ≠ files := by
  obtain ⟨files, walked, separate, kept, -⟩ :=
    walk_separates_iff {} isDistinct_twinFiles hasNames_twinFiles
  refine ⟨isDistinct_twinFiles, hasNames_twinFiles, files, walked, fun all => ?_⟩
  cases separate.1 (kept.2 all) isSource_inner isSource_outer shownParts_twinFiles

/-- Two files of different content get one path, though no directory has a name twice. -/
theorem walk_confuses : (directory twinFiles).IsDistinct ∧ (directory twinFiles).HasNames ∧
    ∃ files, walk {} (directory twinFiles) = .ok files ∧ ¬ (files.map SourceFile.path).Nodup ∧
      ∃ inner ∈ files, ∃ outer ∈ files,
        inner.content = "x" ∧ outer.content = "y" ∧ inner.path = outer.path := by
  obtain ⟨found, -, mem, eq⟩ := walkEntries_eq_map {} isDistinct_twinFiles
  have inner : sourceAt [[97], [98]] "x" ∈ walkEntries {} 10 "" twinFiles := by
    rw [eq]
    exact List.mem_map_of_mem ((mem _ _).2 isSource_inner)
  have outer : sourceAt [[97, 92, 98]] "y" ∈ walkEntries {} 10 "" twinFiles := by
    rw [eq]
    exact List.mem_map_of_mem ((mem _ _).2 isSource_outer)
  have path : (sourceAt [[97], [98]] "x").path = (sourceAt [[97, 92, 98]] "y").path :=
    (isSource_inner.path_eq_iff hasNames_twinFiles isSource_outer).2 shownParts_twinFiles
  refine ⟨isDistinct_twinFiles, hasNames_twinFiles, _, rfl, fun distinct => ?_, _, inner, _, outer,
    rfl, rfl, path⟩
  have same := congrArg SourceFile.content (List.inj_on_of_nodup_map distinct inner outer path)
  revert same
  simp [sourceAt]

end Example

end Files

end CodeAtlas
