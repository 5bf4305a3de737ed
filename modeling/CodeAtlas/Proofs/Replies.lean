import CodeAtlas.Inference.Remote
import CodeAtlas.Proofs.Rounding
import Mathlib.Data.List.Forall2

/-! # Replies

A reply is searched for a vector along several paths. Its numbers are tested with all their bits and
then rounded to fewer, so that it is read as it should be just if they stay finite. The numbers of
tokens are added up in 64 bits, so that they count as they should just if these hold the sum; if
they do not, a build with checks breaks off, and another one begins again at zero. -/
namespace CodeAtlas.Inference

open Number

/-! ## What a reply is to be read as -/

/-- An array that is not empty and has nothing but numbers, all of one kind. -/
structure AreNumbers (kind : Binary64 → Bool) (items : List Json) (xs : List Binary64) : Prop where
  nonempty : items ≠ []
  numbers : items.Forall₂ (fun item x => item.double? = some x) xs
  all : ∀ x ∈ xs, kind x = true

/-- Of all paths, the first that leads to an array of numbers of one kind leads to this one. -/
def IsFirst (kind : Binary64 → Bool) (paths : List (List String)) (reply : Json)
    (items : List Json) (xs : List Binary64) : Prop :=
  ∃ before path after, paths = before ++ path :: after ∧
    reply.at? path = some (.array items) ∧ AreNumbers kind items xs ∧
    ∀ earlier ∈ before, ∀ others ys, reply.at? earlier = some (.array others) →
      ¬ AreNumbers kind others ys

/-- Whether a number has a finite value in 32 bits. -/
def Fits (x : Binary64) : Bool := x.toBinary32.isFinite

/-- A reply is read as the first array of numbers that fit into 32 bits, each rounded to these, and
as nothing if there is none. -/
structure ReadsVectors (paths : List (List String)) (reply : Json) : Prop where
  vector : ∀ v, replyVector paths reply = .ok v → ∃ items xs, IsFirst Fits paths reply items xs ∧
    v = xs.map (·.toBinary32) ∧ v.length = items.length ∧ ∀ x ∈ v, x.isFinite = true
  found : ∀ items xs, IsFirst Fits paths reply items xs →
    replyVector paths reply = .ok (xs.map (·.toBinary32))
  otherwise : (∀ v, replyVector paths reply ≠ .ok v) →
    replyVector paths reply = .error (.noVector "missing embedding vector in response body")

/-! ## The search for a vector -/

section Search

variable {α β : Type} {l : List α} {f : α → Option β} {bs : List β}

lemma mapM_eq_some_iff : l.mapM f = some bs ↔ l.Forall₂ (fun a b => f a = some b) bs := by
  induction l generalizing bs with
  | nil => simp [eq_comm]
  | cons a l ih =>
    rw [List.mapM_cons]
    cases head : f a with
    | none => cases bs <;> simp [head]
    | some b =>
      cases tail : l.mapM f with
      | none => cases bs <;> simp [head, ← ih, tail]
      | some rest => cases bs <;> simp [head, ← ih, tail]

end Search

/-- The numbers of an array, if all are of one kind. -/
def numbers? (kind : Binary64 → Bool) : Json → Option (List Binary64)
  | .array (item :: items) => ((item :: items).mapM Json.double?).filter (·.all kind)
  | _ => none

/-- The numbers of the first array that has numbers of one kind only. -/
def firstNumbers? (kind : Binary64 → Bool) (paths : List (List String)) (reply : Json) :
    Option (List Binary64) :=
  paths.findSome? fun path => (reply.at? path).bind (numbers? kind)

variable {kind : Binary64 → Bool} {paths : List (List String)} {reply j : Json}
  {items : List Json} {xs : List Binary64}

lemma numbers?_eq_some_iff :
    numbers? kind j = some xs ↔ ∃ items, j = .array items ∧ AreNumbers kind items xs := by
  constructor
  · intro h
    match j, h with
    | .array (item :: items), h =>
      obtain ⟨numbers, all⟩ := Option.filter_eq_some_iff.1 h
      exact ⟨_, rfl, List.cons_ne_nil item items, mapM_eq_some_iff.1 numbers,
        List.all_eq_true.1 all⟩
  · rintro ⟨items, rfl, nonempty, numbers, all⟩
    obtain ⟨item, items, rfl⟩ := List.exists_cons_of_ne_nil nonempty
    exact Option.filter_eq_some_iff.2 ⟨mapM_eq_some_iff.2 numbers, List.all_eq_true.2 all⟩

lemma numbersAt_eq_some_iff {path : List String} :
    (reply.at? path).bind (numbers? kind) = some xs ↔
      ∃ items, reply.at? path = some (.array items) ∧ AreNumbers kind items xs := by
  simp only [Option.bind_eq_some_iff, numbers?_eq_some_iff]
  constructor
  · rintro ⟨_, found, items, rfl, numbers⟩
    exact ⟨items, found, numbers⟩
  · rintro ⟨items, found, numbers⟩
    exact ⟨_, found, items, rfl, numbers⟩

lemma firstNumbers?_eq_some_iff :
    firstNumbers? kind paths reply = some xs ↔ ∃ items, IsFirst kind paths reply items xs := by
  simp only [firstNumbers?, List.findSome?_eq_some_iff, Option.eq_none_iff_forall_ne_some, ne_eq,
    numbersAt_eq_some_iff]
  constructor
  · rintro ⟨before, path, after, split, ⟨items, found, numbers⟩, none⟩
    exact ⟨items, before, path, after, split, found, numbers,
      fun earlier mem others ys leads are => none earlier mem ys ⟨others, leads, are⟩⟩
  · rintro ⟨items, before, path, after, split, found, numbers, none⟩
    exact ⟨before, path, after, split, ⟨items, found, numbers⟩,
      fun earlier mem ys ⟨others, leads, are⟩ => none earlier mem others ys leads are⟩

lemma mapM_rounded {f : Json → Option Binary32} (items : List Json)
    (each : ∀ n, f n = n.double?.bind fun x => if x.isFinite then some x.toBinary32 else none) :
    items.mapM f = ((items.mapM Json.double?).filter (·.all Binary64.isFinite)).map
      (List.map (·.toBinary32)) := by
  induction items with
  | nil => rfl
  | cons item items ih =>
    rw [List.mapM_cons, List.mapM_cons, ih, each]
    cases head : item.double? with
    | none => simp
    | some x =>
      cases tail : items.mapM Json.double? with
      | none => cases finite : x.isFinite <;> simp [finite]
      | some xs =>
        cases finite : x.isFinite <;> cases all : xs.all Binary64.isFinite <;>
          simp [finite, all, Option.filter]

/-- All bits of the numbers are tested before they are rounded. -/
lemma vectorOf?_eq (j : Json) :
    vectorOf? j = (numbers? Binary64.isFinite j).map (List.map (·.toBinary32)) := by
  cases j with
  | array items =>
    cases items with
    | nil => rfl
    | cons item items =>
      refine mapM_rounded (item :: items) fun n => ?_
      cases n.double? <;> rfl
  | _ => rfl

lemma replyVector_eq : replyVector paths reply =
    match firstNumbers? Binary64.isFinite paths reply with
    | some xs => .ok (xs.map (·.toBinary32))
    | none => .error (.noVector "missing embedding vector in response body") := by
  have search : (paths.findSome? fun path => (reply.at? path).bind vectorOf?) =
      (firstNumbers? Binary64.isFinite paths reply).map (List.map (·.toBinary32)) := by
    rw [firstNumbers?, List.map_findSome?]
    congr 1
    funext path
    rw [Function.comp_apply, funext vectorOf?_eq, Option.map_bind]
    rfl
  rw [replyVector, search]
  cases firstNumbers? Binary64.isFinite paths reply <;> rfl

/-! ## When a reply is read as it should be -/

lemma replyVector_eq_ok_iff {v : List Binary32} : replyVector paths reply = .ok v ↔
    ∃ xs, firstNumbers? Binary64.isFinite paths reply = some xs ∧
      xs.map (·.toBinary32) = v := by
  rw [replyVector_eq]
  cases firstNumbers? Binary64.isFinite paths reply <;> simp

lemma AreNumbers.imp {kind' : Binary64 → Bool} (h : AreNumbers kind items xs)
    (of : ∀ x ∈ xs, kind' x = true) : AreNumbers kind' items xs :=
  ⟨h.nonempty, h.numbers, of⟩

lemma Fits.isFinite {x : Binary64} (h : Fits x = true) : x.isFinite = true :=
  Binary64.isFinite_of_toBinary32 h

lemma IsFirst.fits (first : IsFirst Binary64.isFinite paths reply items xs)
    (fit : ∀ x ∈ xs, Fits x = true) : IsFirst Fits paths reply items xs := by
  obtain ⟨before, path, after, split, found, numbers, none⟩ := first
  refine ⟨before, path, after, split, found, numbers.imp fit, ?_⟩
  intro earlier mem others ys leads are
  exact none earlier mem others ys leads (are.imp fun x mem => Fits.isFinite (are.all x mem))

lemma IsFirst.exists_isFinite (first : IsFirst Fits paths reply items xs) :
    ∃ others ys, IsFirst Binary64.isFinite paths reply others ys := by
  obtain ⟨before, path, after, rfl, found, numbers, -⟩ := first
  have finite : AreNumbers Binary64.isFinite items xs :=
    numbers.imp fun x mem => Fits.isFinite (numbers.all x mem)
  have here : ((reply.at? path).bind (numbers? Binary64.isFinite)).isSome = true :=
    Option.isSome_iff_exists.2 ⟨xs, numbersAt_eq_some_iff.2 ⟨items, found, finite⟩⟩
  have some : (firstNumbers? Binary64.isFinite (before ++ path :: after) reply).isSome = true :=
    List.findSome?_isSome_iff.2 ⟨path, by simp, here⟩
  obtain ⟨ys, eq⟩ := Option.isSome_iff_exists.1 some
  obtain ⟨others, first⟩ := firstNumbers?_eq_some_iff.1 eq
  exact ⟨others, ys, first⟩

lemma IsFirst.unique {others : List Json} {ys : List Binary64}
    (first : IsFirst kind paths reply items xs) (first' : IsFirst kind paths reply others ys) :
    xs = ys := by
  have left := firstNumbers?_eq_some_iff.2 ⟨items, first⟩
  have right := firstNumbers?_eq_some_iff.2 ⟨others, first'⟩
  exact Option.some.inj (left.symm.trans right)

lemma IsFirst.replyVector_eq (first : IsFirst Binary64.isFinite paths reply items xs) :
    replyVector paths reply = .ok (xs.map (·.toBinary32)) :=
  replyVector_eq_ok_iff.2 ⟨xs, firstNumbers?_eq_some_iff.2 ⟨items, first⟩, rfl⟩

/-- A reply is read as it should be just if each number of the first array of numbers is below the
middle between the greatest number of 32 bits and `2 ^ 128`. -/
theorem readsVectors_iff : ReadsVectors paths reply ↔
    ∀ items xs, IsFirst Binary64.isFinite paths reply items xs →
      ∀ x ∈ xs, ∃ r ∈ x.magnitude?, r < 2 ^ 128 - 2 ^ 103 := by
  simp only [← Binary64.toBinary32_isFinite_iff]
  constructor
  · intro reads items xs first x mem
    obtain ⟨_, _, _, _, _, finite⟩ := reads.vector _ first.replyVector_eq
    exact finite _ (List.mem_map_of_mem mem)
  · intro fit
    refine ⟨fun v read => ?_, fun items xs first => ?_, fun none => ?_⟩
    · obtain ⟨xs, some, rfl⟩ := replyVector_eq_ok_iff.1 read
      obtain ⟨items, first⟩ := firstNumbers?_eq_some_iff.1 some
      have fits : IsFirst Fits paths reply items xs := first.fits (fit items xs first)
      have length : xs.length = items.length := by
        obtain ⟨_, _, _, _, _, numbers, _⟩ := first
        exact numbers.numbers.length_eq.symm
      refine ⟨items, xs, fits, rfl, (List.length_map _).trans length, ?_⟩
      rw [List.forall_mem_map]
      exact fit items xs first
    · obtain ⟨others, ys, finite⟩ := first.exists_isFinite
      have same : xs = ys := first.unique (finite.fits (fit others ys finite))
      rw [same, finite.replyVector_eq]
    · rw [Inference.replyVector_eq]
      cases search : firstNumbers? Binary64.isFinite paths reply with
      | none => rfl
      | some xs => exact absurd (replyVector_eq_ok_iff.2 ⟨xs, search, rfl⟩) (none _)

/-- A reply with one number, which is finite in 64 bits and not in 32. -/
def overflowingReply : Json :=
  .object [("embedding", .array [.number (.double (.ofDecimal false 1 39))])]

/-- It is read as a vector with an infinite entry. -/
theorem overflowingReply_read :
    (Binary64.ofDecimal false 1 39).isFinite = true ∧
    replyVector (Remote.vectorPaths .localHost) overflowingReply = .ok [⟨0x7F800000⟩] ∧
    (⟨0x7F800000⟩ : Binary32).isFinite = false ∧
    ¬ ReadsVectors (Remote.vectorPaths .localHost) overflowingReply := by
  have read : replyVector (Remote.vectorPaths .localHost) overflowingReply =
      .ok [⟨0x7F800000⟩] := by decide +kernel
  have infinite : (⟨0x7F800000⟩ : Binary32).isFinite = false := by decide +kernel
  refine ⟨by decide +kernel, read, infinite, fun reads => ?_⟩
  obtain ⟨_, _, _, _, _, finite⟩ := reads.vector _ read
  exact Bool.eq_false_iff.1 infinite (finite _ List.mem_cons_self)

/-! ## Tokens -/

lemma toNat_foldl_add (counts : List Nat) (start : UInt64) :
    (counts.foldl (fun sum n => sum + UInt64.ofNat n) start).toNat =
      (start.toNat + counts.sum) % 2 ^ 64 := by
  induction counts generalizing start with
  | nil => simp
  | cons n counts ih =>
    rw [List.foldl_cons, ih, List.sum_cons, UInt64.toNat_add, UInt64.toNat_ofNat', Nat.add_mod_mod,
      Nat.mod_add_mod, Nat.add_assoc]

lemma toNat_sum64 (counts : List Nat) : (sum64 counts).toNat = counts.sum % 2 ^ 64 := by
  rw [sum64, toNat_foldl_add, UInt64.toNat_zero, Nat.zero_add]

lemma tokenCount_eq :
    tokenCount paths reply = min ((tokenNumbers paths reply).sum % 2 ^ 64) maxTokens := by
  rw [← toNat_sum64]
  rfl

lemma nat?_lt {n : Nat} (h : j.nat? = some n) : n < 2 ^ 64 := by
  unfold Json.nat? at h
  split at h
  next m =>
    split_ifs at h with range
    obtain rfl := Option.some.inj h
    omega
  next => cases h

lemma lt_of_mem_tokenNumbers {n : Nat} (mem : n ∈ tokenNumbers paths reply) : n < 2 ^ 64 := by
  obtain ⟨path, -, found⟩ := List.mem_filterMap.1 mem
  obtain ⟨j, -, number⟩ := Option.bind_eq_some_iff.1 found
  exact nat?_lt number

/-- A single number cannot overflow. -/
lemma sum_tokenNumbers_lt (single : paths.length ≤ 1) :
    (tokenNumbers paths reply).sum < 2 ^ 64 := by
  have short : (tokenNumbers paths reply).length ≤ 1 := (List.length_filterMap_le _ _).trans single
  match counts : tokenNumbers paths reply with
  | [] => simp
  | [n] =>
    have mem : n ∈ tokenNumbers paths reply := by simp [counts]
    simpa using lt_of_mem_tokenNumbers mem
  | _ :: _ :: _ => simp [counts] at short

lemma foldlM_add64?_eq (numbers : List Nat) (start : Nat) (low : start < 2 ^ 64) :
    numbers.foldlM add64? start =
      if start + numbers.sum < 2 ^ 64 then some (start + numbers.sum) else none := by
  induction numbers generalizing start with
  | nil => rw [List.sum_nil, Nat.add_zero, if_pos low, List.foldlM_nil, Option.pure_def]
  | cons n numbers ih =>
    rw [List.foldlM_cons, List.sum_cons, ← Nat.add_assoc]
    by_cases fits : start + n < 2 ^ 64
    · have next : add64? start n = some (start + n) := if_pos fits
      rw [next]
      exact ih (start + n) fits
    · have next : add64? start n = none := if_neg fits
      rw [next, if_neg (by omega)]
      rfl

lemma checkedSum_eq (numbers : List Nat) :
    checkedSum numbers = if numbers.sum < 2 ^ 64 then some numbers.sum else none := by
  rw [checkedSum, foldlM_add64?_eq numbers 0 (by decide), Nat.zero_add]

/-- The numbers that paths lead to are counted as they should be: the sum does not break off where
it is checked, is kept as it is where it is not, and is then cut to the greatest number that is
told. -/
structure CountsTokens (paths : List (List String)) (reply : Json) : Prop where
  checked : checkedTokenCount paths reply = some (min (tokenNumbers paths reply).sum maxTokens)
  unchecked : tokenCount paths reply = min (tokenNumbers paths reply).sum maxTokens
  whole : (sum64 (tokenNumbers paths reply)).toNat = (tokenNumbers paths reply).sum

/-- Tokens are counted as they should be just if their sum has no more than 64 bits. A build with
checks breaks off at a sum that has more; one without tells it right only if what is left of it is
cut as well. It needs two paths at least. -/
theorem countsTokens_iff :
    (CountsTokens paths reply ↔ (tokenNumbers paths reply).sum < 2 ^ 64) ∧
    (checkedTokenCount paths reply = none ↔ 2 ^ 64 ≤ (tokenNumbers paths reply).sum) ∧
    (tokenCount paths reply = min (tokenNumbers paths reply).sum maxTokens ↔
      (tokenNumbers paths reply).sum < 2 ^ 64 ∨
        maxTokens ≤ (tokenNumbers paths reply).sum % 2 ^ 64) ∧
    (paths.length ≤ 1 → CountsTokens paths reply) := by
  have whole : (sum64 (tokenNumbers paths reply)).toNat = (tokenNumbers paths reply).sum ↔
      (tokenNumbers paths reply).sum < 2 ^ 64 := by
    rw [toNat_sum64, Nat.mod_eq_iff_lt (by decide)]
  have told : tokenCount paths reply = min (tokenNumbers paths reply).sum maxTokens ↔
      (tokenNumbers paths reply).sum < 2 ^ 64 ∨
        maxTokens ≤ (tokenNumbers paths reply).sum % 2 ^ 64 := by
    rw [tokenCount_eq, maxTokens]
    omega
  have checked (less : (tokenNumbers paths reply).sum < 2 ^ 64) :
      checkedTokenCount paths reply = some (min (tokenNumbers paths reply).sum maxTokens) := by
    rw [checkedTokenCount, checkedSum_eq, if_pos less]
    rfl
  have counts : CountsTokens paths reply ↔ (tokenNumbers paths reply).sum < 2 ^ 64 :=
    ⟨fun h => whole.1 h.whole, fun less => ⟨checked less, told.2 (.inl less), whole.2 less⟩⟩
  refine ⟨counts, ?_, told, fun single => counts.2 (sum_tokenNumbers_lt single)⟩
  rw [checkedTokenCount, Option.map_eq_none_iff, checkedSum_eq, ite_eq_right_iff, ← Nat.not_lt]
  simp

/-- A reply with two numbers whose sum has one bit more than 64. -/
def overflowingCounts : Json :=
  .object [("response", .string "r"), ("prompt_eval_count", .nat (2 ^ 64 - 1)),
    ("eval_count", .nat 1)]

/-- A network on which each request gets this reply. -/
def overflowingNetwork : Network := fun _ => some ⟨200, overflowingCounts.render⟩

/-- A service on the same machine. -/
def nearby : Remote := ⟨.localHost, "", "m", ""⟩

/-- With checks the call breaks off, and without them its tokens are told to be none. -/
theorem overflowingCounts_lost :
    nearby.completeChecked overflowingNetwork .zero "hi" = .ok none ∧
    nearby.complete overflowingNetwork .zero "hi" = .ok ⟨"r", 0⟩ ∧
    (tokenNumbers (Remote.tokenPaths .localHost) overflowingCounts).sum = 2 ^ 64 ∧
    ¬ CountsTokens (Remote.tokenPaths .localHost) overflowingCounts := by
  have counts : tokenNumbers (Remote.tokenPaths .localHost) overflowingCounts =
      [2 ^ 64 - 1, 1] := by decide +kernel
  have lost : tokenCount (Remote.tokenPaths .localHost) overflowingCounts = 0 := by decide +kernel
  refine ⟨by decide +kernel, by decide +kernel, by rw [counts]; rfl, fun right => ?_⟩
  have told := right.unchecked
  rw [lost, counts] at told
  exact absurd told (by decide)

end CodeAtlas.Inference
