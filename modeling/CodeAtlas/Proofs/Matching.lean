import CodeAtlas.Pattern
import Mathlib.Logic.Relation
import Mathlib.Tactic.Lemma

/-! # Where patterns match

`Pattern.Reaches` says in which ways a pattern can match at a place, with no order among them. The
search for a match takes one of these ways, and it finds one whenever there is one that what follows
accepts. -/
namespace CodeAtlas.Pattern

variable {β : Type} {p q : Pattern} {s t : Spot}

/-- The place after some characters that stand there. -/
def Spot.after (s : Spot) (taken : List Char) : Spot where
  before := taken.getLast?.or s.before
  rest := s.rest.drop taken.length
  offset := s.offset + taken.length
  groups := s.groups

/-- The place with one more group marked. -/
def Spot.marked (s : Spot) (number : Nat) (text : List Char) : Spot :=
  { s with groups := (number, text) :: s.groups }

/-- A match of the pattern may lead from one place to another. A repetition is made of matches that
move on. -/
def Reaches : Pattern → Spot → Spot → Prop
  | empty, s, t => t = s
  | one accepts, s, t => ∃ c cs, s.rest = c :: cs ∧ accepts c = true ∧ t = s.after [c]
  | seq p q, s, t => ∃ m, p.Reaches s m ∧ q.Reaches m t
  | alt p q, s, t => p.Reaches s t ∨ q.Reaches s t
  | star p, s, t => Relation.ReflTransGen (fun a b => p.Reaches a b ∧ a.offset < b.offset) s t
  | lazyStar p, s, t => Relation.ReflTransGen (fun a b => p.Reaches a b ∧ a.offset < b.offset) s t
  | group number p, s, t =>
      ∃ m, p.Reaches s m ∧ t = m.marked number (s.rest.take (m.offset - s.offset))
  | lineEnd, s, t => s.rest = [] ∧ t = s
  | wordEdge, s, t => isWordAt s.before ≠ isWordAt s.rest.head? ∧ t = s

/-! ## What is taken -/

/-- From one place to the other, just these characters are passed. -/
def Spot.Passes (s t : Spot) (taken : List Char) : Prop :=
  s.rest = taken ++ t.rest ∧ t.offset = s.offset + taken.length

lemma Spot.Passes.trans {m : Spot} {u v : List Char} (h : s.Passes m u) (k : m.Passes t v) :
    s.Passes t (u ++ v) := by
  refine ⟨by rw [h.1, k.1, List.append_assoc], ?_⟩
  rw [k.2, h.2, List.length_append, Nat.add_assoc]

lemma Spot.passes_self (s : Spot) : s.Passes s [] := ⟨rfl, rfl⟩

lemma Spot.passes_after {taken rest : List Char} (h : s.rest = taken ++ rest) :
    s.Passes (s.after taken) taken := by
  refine ⟨?_, rfl⟩
  rw [Spot.after, h, List.drop_left]

lemma passes_star {R : Spot → Spot → Prop} (passes : ∀ a b, R a b → ∃ taken, a.Passes b taken)
    (h : Relation.ReflTransGen R s t) : ∃ taken, s.Passes t taken := by
  induction h with
  | refl => exact ⟨[], s.passes_self⟩
  | tail _ step ih =>
    obtain ⟨u, first⟩ := ih
    obtain ⟨v, last⟩ := passes _ _ step
    exact ⟨u ++ v, first.trans last⟩

lemma Reaches.passes (h : p.Reaches s t) : ∃ taken, s.Passes t taken := by
  induction p generalizing s t with
  | empty => exact ⟨[], h ▸ s.passes_self⟩
  | one accepts =>
    obtain ⟨c, cs, here, -, rfl⟩ := h
    exact ⟨[c], Spot.passes_after here⟩
  | seq p q ihp ihq =>
    obtain ⟨m, first, last⟩ := h
    obtain ⟨u, first⟩ := ihp first
    obtain ⟨v, last⟩ := ihq last
    exact ⟨u ++ v, first.trans last⟩
  | alt p q ihp ihq => exact h.elim ihp ihq
  | star p ih => exact passes_star (fun _ _ step => ih step.1) h
  | lazyStar p ih => exact passes_star (fun _ _ step => ih step.1) h
  | group number p ih =>
    obtain ⟨m, inside, rfl⟩ := h
    obtain ⟨taken, passed⟩ := ih inside
    exact ⟨taken, passed⟩
  | lineEnd => exact ⟨[], h.2 ▸ s.passes_self⟩
  | wordEdge => exact ⟨[], h.2 ▸ s.passes_self⟩

lemma Spot.after_after (s : Spot) (u v : List Char) : (s.after u).after v = s.after (u ++ v) := by
  unfold Spot.after
  rw [List.getLast?_append, List.length_append, Option.or_assoc, List.drop_drop, Nat.add_assoc]

lemma Spot.rest_after {taken rest : List Char} (h : s.rest = taken ++ rest) :
    (s.after taken).rest = rest := by
  rw [Spot.after, h, List.drop_left]

/-! ## Characters -/

variable {accepts : Char → Bool}

lemma reaches_one {c : Char} {rest : List Char} (here : s.rest = c :: rest)
    (accepted : accepts c = true) : (one accepts).Reaches s (s.after [c]) :=
  ⟨c, rest, here, accepted, rfl⟩

lemma of_reaches_one (h : (one accepts).Reaches s t) :
    ∃ c, s.rest = c :: t.rest ∧ accepts c = true ∧ t = s.after [c] := by
  obtain ⟨c, rest, here, accepted, rfl⟩ := h
  exact ⟨c, here.trans (congrArg _ (Spot.rest_after here).symm), accepted, rfl⟩

/-- A repetition of one character takes some characters of its kind. -/
lemma of_reaches_star_one (h : (star (one accepts)).Reaches s t) :
    ∃ cs, s.rest = cs ++ t.rest ∧ (∀ c ∈ cs, accepts c = true) ∧ t = s.after cs := by
  induction h with
  | refl => exact ⟨[], rfl, fun _ mem => (List.not_mem_nil mem).elim, rfl⟩
  | tail _ step ih =>
    obtain ⟨cs, here, accepted, rfl⟩ := ih
    obtain ⟨c, next, last, rfl⟩ := of_reaches_one step.1
    refine ⟨cs ++ [c], ?_, ?_, Spot.after_after s cs [c]⟩
    · rw [here, next, List.append_assoc]
      rfl
    · intro d mem
      rcases List.mem_append.1 mem with mem | mem
      · exact accepted d mem
      · exact List.mem_singleton.1 mem ▸ last

lemma reaches_star_one {cs rest : List Char} (here : s.rest = cs ++ rest)
    (accepted : ∀ c ∈ cs, accepts c = true) : (star (one accepts)).Reaches s (s.after cs) := by
  induction cs generalizing s with
  | nil => exact .refl
  | cons c cs ih =>
    have first : (one accepts).Reaches s (s.after [c]) :=
      reaches_one here (accepted c List.mem_cons_self)
    have next : (s.after [c]).rest = cs ++ rest := Spot.rest_after here
    have others := ih next fun d mem => accepted d (List.mem_cons_of_mem _ mem)
    rw [Spot.after_after] at others
    exact .head ⟨first, Nat.lt_succ_self _⟩ others

lemma of_reaches_text {w : String} (h : (text w).Reaches s t) : s.rest = w.toList ++ t.rest := by
  unfold text at h
  generalize w.toList = cs at h
  induction cs generalizing s with
  | nil => rw [show t = s from h, List.nil_append]
  | cons c cs ih =>
    obtain ⟨m, first, last⟩ := h
    obtain ⟨d, here, same, rfl⟩ := of_reaches_one first
    obtain rfl : d = c := beq_iff_eq.1 same
    rw [here, ih last, List.cons_append]

/-! ## The search -/

/-- A search takes ways of a relation only, and finds one if there is one to go on from. -/
structure Explores (search : Spot → (Spot → Option β) → Option β) (ways : Spot → Spot → Prop) :
    Prop where
  sound : ∀ {s next b}, search s next = some b → ∃ t, ways s t ∧ next t = some b
  complete : ∀ {s t next}, ways s t → (next t).isSome = true → (search s next).isSome = true

section Repetition

variable {body : Spot → (Spot → Option β) → Option β} {ways : Spot → Spot → Prop}
  {next : Spot → Option β} {fuel : Nat}

/-- One way that moves on. -/
abbrev Onward (ways : Spot → Spot → Prop) (s t : Spot) : Prop := ways s t ∧ s.offset < t.offset

lemma sound_onward (explores : Explores body ways) {go : Spot → Option β} {b : β}
    (h : body s (fun t => if s.offset < t.offset then go t else none) = some b) :
    ∃ t, Onward ways s t ∧ go t = some b := by
  obtain ⟨t, way, found⟩ := explores.sound h
  split at found
  next onward => exact ⟨t, ⟨way, onward⟩, found⟩
  next => cases found

lemma complete_onward (explores : Explores body ways) {go : Spot → Option β}
    (step : Onward ways s t) (h : (go t).isSome = true) :
    (body s fun t => if s.offset < t.offset then go t else none).isSome = true := by
  apply explores.complete step.1
  rw [if_pos step.2]
  exact h

lemma sound_repeatLong (explores : Explores body ways) {b : β}
    (h : repeatLong body next fuel s = some b) :
    ∃ t, Relation.ReflTransGen (Onward ways) s t ∧ next t = some b := by
  induction fuel generalizing s with
  | zero => exact ⟨s, .refl, h⟩
  | succ fuel ih =>
    rw [repeatLong] at h
    split at h
    next b' found =>
      obtain ⟨m, step, rest⟩ := sound_onward explores (found.trans h)
      obtain ⟨t, steps, last⟩ := ih rest
      exact ⟨t, steps.head step, last⟩
    next => exact ⟨s, .refl, h⟩

lemma sound_repeatShort (explores : Explores body ways) {b : β}
    (h : repeatShort body next fuel s = some b) :
    ∃ t, Relation.ReflTransGen (Onward ways) s t ∧ next t = some b := by
  induction fuel generalizing s with
  | zero => exact ⟨s, .refl, h⟩
  | succ fuel ih =>
    rw [repeatShort] at h
    split at h
    next b' found => exact ⟨s, .refl, found.trans h⟩
    next =>
      obtain ⟨m, step, rest⟩ := sound_onward explores h
      obtain ⟨t, steps, last⟩ := ih rest
      exact ⟨t, steps.head step, last⟩

/-- What moves on leaves less, so the fuel lasts for every repetition. -/
lemma length_lt_of_onward (passes : ∀ a b, ways a b → ∃ taken, a.Passes b taken)
    (step : Onward ways s t) : t.rest.length < s.rest.length := by
  obtain ⟨way, onward⟩ := step
  obtain ⟨taken, here, offset⟩ := passes s t way
  rw [here, List.length_append]
  omega

lemma complete_repeatLong (explores : Explores body ways)
    (passes : ∀ a b, ways a b → ∃ taken, a.Passes b taken)
    (h : Relation.ReflTransGen (Onward ways) s t) (found : (next t).isSome = true)
    (enough : s.rest.length < fuel) : (repeatLong body next fuel s).isSome = true := by
  induction fuel generalizing s with
  | zero => exact absurd enough (Nat.not_lt_zero _)
  | succ fuel ih =>
    rw [repeatLong]
    split
    next => rfl
    next nothing =>
      rcases h.cases_head with rfl | ⟨m, step, steps⟩
      · exact found
      · have less := length_lt_of_onward passes step
        have := complete_onward explores step (ih steps (by omega))
        rw [nothing] at this
        cases this

lemma complete_repeatShort (explores : Explores body ways)
    (passes : ∀ a b, ways a b → ∃ taken, a.Passes b taken)
    (h : Relation.ReflTransGen (Onward ways) s t) (found : (next t).isSome = true)
    (enough : s.rest.length < fuel) : (repeatShort body next fuel s).isSome = true := by
  induction fuel generalizing s with
  | zero => exact absurd enough (Nat.not_lt_zero _)
  | succ fuel ih =>
    rw [repeatShort]
    split
    next => rfl
    next nothing =>
      rcases h.cases_head with rfl | ⟨m, step, steps⟩
      · rw [nothing] at found
        cases found
      · have less := length_lt_of_onward passes step
        exact complete_onward explores step (ih steps (by omega))

end Repetition

/-- The search for a match of a pattern explores the ways to match it. -/
theorem explores_run (p : Pattern) : Explores (β := β) p.run p.Reaches := by
  induction p with
  | empty =>
    refine ⟨fun h => ⟨_, rfl, h⟩, fun way found => ?_⟩
    cases way
    exact found
  | one accepts =>
    constructor
    · intro s next b h
      rw [run] at h
      split at h
      next c cs here =>
        split at h
        next accepted =>
          refine ⟨s.after [c], ⟨c, cs, here, accepted, rfl⟩, ?_⟩
          rw [Spot.after, here]
          exact h
        next => cases h
      next => cases h
    · rintro s t next ⟨c, cs, here, accepted, rfl⟩ found
      rw [Spot.after, here] at found
      rw [run, here]
      dsimp only
      rw [if_pos accepted]
      exact found
  | seq p q ihp ihq =>
    constructor
    · intro s next b h
      obtain ⟨m, first, rest⟩ := ihp.sound h
      obtain ⟨t, last, found⟩ := ihq.sound rest
      exact ⟨t, ⟨m, first, last⟩, found⟩
    · rintro s t next ⟨m, first, last⟩ found
      exact ihp.complete first (ihq.complete last found)
  | alt p q ihp ihq =>
    constructor
    · intro s next b h
      rw [run] at h
      split at h
      next b' left =>
        obtain ⟨t, way, found⟩ := ihp.sound (left.trans h)
        exact ⟨t, .inl way, found⟩
      next =>
        obtain ⟨t, way, found⟩ := ihq.sound h
        exact ⟨t, .inr way, found⟩
    · intro s t next way found
      rw [run]
      split
      next => rfl
      next nothing =>
        rcases way with left | right
        · have := ihp.complete left found
          rw [nothing] at this
          cases this
        · exact ihq.complete right found
  | star p ih =>
    refine ⟨sound_repeatLong ih, fun way found => ?_⟩
    exact complete_repeatLong ih (fun _ _ => Reaches.passes) way found (Nat.lt_succ_self _)
  | lazyStar p ih =>
    refine ⟨sound_repeatShort ih, fun way found => ?_⟩
    exact complete_repeatShort ih (fun _ _ => Reaches.passes) way found (Nat.lt_succ_self _)
  | group number p ih =>
    constructor
    · intro s next b h
      obtain ⟨m, inside, found⟩ := ih.sound h
      exact ⟨_, ⟨m, inside, rfl⟩, found⟩
    · rintro s t next ⟨m, inside, rfl⟩ found
      exact ih.complete inside found
  | lineEnd =>
    constructor
    · intro s next b h
      rw [run] at h
      split at h
      next here => exact ⟨s, ⟨List.isEmpty_iff.1 here, rfl⟩, h⟩
      next => cases h
    · rintro s t next ⟨here, rfl⟩ found
      rw [run, if_pos (List.isEmpty_iff.2 here)]
      exact found
  | wordEdge =>
    constructor
    · intro s next b h
      rw [run] at h
      split at h
      next here => exact ⟨s, ⟨by simpa using here, rfl⟩, h⟩
      next => cases h
    · rintro s t next ⟨here, rfl⟩ found
      rw [run, if_pos (by simpa using here)]
      exact found

/-! ## Matches at the start of a line -/

variable {line : List Char}

lemma reaches_of_matchStart? (h : p.matchStart? line = some t) :
    p.Reaches (.start line) t := by
  obtain ⟨m, way, found⟩ := (explores_run p).sound h
  cases found
  exact way

lemma isSome_matchStart? (h : p.Reaches (.start line) t) : (p.matchStart? line).isSome = true :=
  (explores_run p).complete h rfl

lemma matchStart?_eq_none (h : ∀ t, ¬ p.Reaches (.start line) t) : p.matchStart? line = none := by
  cases found : p.matchStart? line with
  | none => rfl
  | some t => exact absurd (reaches_of_matchStart? found) (h t)

end CodeAtlas.Pattern
