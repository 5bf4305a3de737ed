import CodeAtlas.Proofs.Turns

/-! # Rules

What a program may ask the store for, given what it has asked and been told so far. Rules speak of
the program alone: a program that keeps to them does so whatever the store says, and so it does in
company too, where others change the store between its requests. -/
namespace CodeAtlas

/-- What may be asked for at each stage, and the stage that an answer leads to. -/
structure Rules (σ : Type) where
  permits : σ → Store.Operation → Prop
  next : σ → (o : Store.Operation) → Except StoreError o.Result → σ

/-- What one request may come to, for the stage and for the store. -/
inductive Rules.Request {σ : Type} (rules : Rules σ) (x : σ) (s : Store) : σ → Store → Prop
  | silent : Request rules x s x s
  | asked {o : Store.Operation} {t : Int} {r : Except StoreError o.Result} {s' : Store}
      (permitted : rules.permits x o) (answers : s.Answers t o r s') :
      Request rules x s (rules.next x o r) s'

variable {σ : Type} {rules : Rules σ} {x : σ}

namespace Program

/-- A program keeps to rules from a stage on, and `ends` holds at its end. -/
inductive Follows (rules : Rules σ) (ends : α → σ → Prop) : Program α → σ → Prop
  | done {a : α} {x : σ} (last : ends a x) : Follows rules ends (done a) x
  | now {next : Int → Program α} {x : σ} (rest : ∀ t, Follows rules ends (next t) x) :
      Follows rules ends (now next) x
  | perform {o : Store.Operation} {next : Except StoreError o.Result → Program α} {x : σ}
      (permitted : rules.permits x o)
      (rest : ∀ r, Follows rules ends (next r) (rules.next x o r)) :
      Follows rules ends (perform o next) x
  | complete {prompt : String}
      {next : Except Inference.ServiceError (Option Inference.Completion) → Program α} {x : σ}
      (rest : ∀ reply, Follows rules ends (next reply) x) :
      Follows rules ends (complete prompt next) x

lemma Follows.bind {M : α → σ → Prop} {ends : β → σ → Prop} {p : Program α} {f : α → Program β}
    (h : p.Follows rules M x) (rest : ∀ a y, M a y → (f a).Follows rules ends y) :
    (p >>= f).Follows rules ends x := by
  induction h with
  | done last => exact rest _ _ last
  | now _ ih => exact .now ih
  | perform permitted _ ih => exact .perform permitted ih
  | complete _ ih => exact .complete ih

lemma Follows.mono {ends ends' : α → σ → Prop} {p : Program α} (h : p.Follows rules ends x)
    (wider : ∀ a y, ends a y → ends' a y) : p.Follows rules ends' x := by
  induction h with
  | done last => exact .done (wider _ _ last)
  | now _ ih => exact .now ih
  | perform permitted _ ih => exact .perform permitted ih
  | complete _ ih => exact .complete ih

lemma follows_request {o : Store.Operation} {ends : Except StoreError o.Result → σ → Prop}
    (permitted : rules.permits x o) (last : ∀ r, ends r (rules.next x o r)) :
    (request o).Follows rules ends x :=
  .perform permitted fun r => .done (last r)

lemma Step.follows {ends : α → σ → Prop} {p q : Program α} {w v : World} (h : Step p w q v)
    (follows : p.Follows rules ends x) :
    ∃ y, rules.Request x w.store y v.store ∧ q.Follows rules ends y := by
  cases follows with
  | done => cases h
  | now rest =>
    cases h with
    | now => exact ⟨x, .silent, rest _⟩
  | perform permitted rest =>
    cases h with
    | perform later answers => exact ⟨_, .asked permitted answers, rest _⟩
  | complete rest =>
    cases h with
    | complete reply => exact ⟨x, .silent, rest reply⟩

/-- What each permitted request keeps, an execution keeps. -/
lemma Steps.follows {ends : α → σ → Prop} {J : σ → Store → Prop}
    (keeps : ∀ x s y s', J x s → rules.Request x s y s' → J y s') {p q : Program α} {w v : World}
    (h : Steps p w q v) (follows : p.Follows rules ends x) (start : J x w.store) :
    ∃ y, q.Follows rules ends y ∧ J y v.store := by
  induction h generalizing x with
  | refl => exact ⟨x, follows, start⟩
  | step first _ ih =>
    obtain ⟨y, request, rest⟩ := first.follows follows
    exact ih rest (keeps _ _ _ _ start request)

lemma Follows.ensures {ends : α → σ → Prop} {p : Program α} (h : p.Follows rules ends x)
    (w : World) :
    p.Ensures (fun _ o => ∀ q ∈ o, ∃ y, rules.permits y q) (fun _ _ => True) w := by
  induction h generalizing w with
  | done => trivial
  | now _ ih => exact ⟨by simp, fun t _ => ih t _⟩
  | perform permitted _ ih =>
    refine ⟨fun q hq => ?_, fun t _ r s _ => ih r _⟩
    cases hq
    exact ⟨_, permitted⟩
  | complete _ ih => exact ⟨by simp, fun reply => ih reply _⟩

end Program

/-! ## Programs that may fail -/

/-- A program that may fail keeps to rules from a stage on, `ok` holds at a good end, and `bad` at a
failure. -/
structure FollowsOr (rules : Rules σ) (ok : α → σ → Prop) (bad : ε → σ → Prop)
    (p : ExceptT ε Program α) (x : σ) : Prop where
  follows : p.run.Follows rules (fun r y => match r with | .ok a => ok a y | .error e => bad e y) x

namespace FollowsOr

variable {ok : α → σ → Prop} {bad : ε → σ → Prop} {p : ExceptT ε Program α}

lemma of_pure {a : α} (h : ok a x) : FollowsOr rules ok bad (pure a : ExceptT ε Program α) x :=
  ⟨.done h⟩

lemma of_throw {e : ε} (h : bad e x) :
    FollowsOr rules ok bad (throw e : ExceptT ε Program α) x :=
  ⟨.done h⟩

lemma of_lift {p : Program α} (h : p.Follows rules ok x) :
    FollowsOr rules ok bad (liftM p : ExceptT ε Program α) x :=
  ⟨h.bind fun _ _ last => .done last⟩

lemma mono {ok' : α → σ → Prop} {bad' : ε → σ → Prop} (h : FollowsOr rules ok bad p x)
    (hok : ∀ a y, ok a y → ok' a y) (hbad : ∀ e y, bad e y → bad' e y) :
    FollowsOr rules ok' bad' p x := by
  refine ⟨h.follows.mono fun r y hr => ?_⟩
  cases r with
  | ok a => exact hok a y hr
  | error e => exact hbad e y hr

lemma bind {M : α → σ → Prop} {ok : β → σ → Prop} {f : α → ExceptT ε Program β}
    (h : FollowsOr rules M bad p x) (rest : ∀ a y, M a y → FollowsOr rules ok bad (f a) y) :
    FollowsOr rules ok bad (p >>= f) x := by
  refine ⟨h.follows.bind fun r y hr => ?_⟩
  cases r with
  | ok a => exact (rest a y hr).follows
  | error e => exact .done hr

lemma tryCatch {M : ε → σ → Prop} {handle : ε → ExceptT ε Program α}
    (h : FollowsOr rules ok M p x) (rest : ∀ e y, M e y → FollowsOr rules ok bad (handle e) y) :
    FollowsOr rules ok bad (tryCatch p handle) x := by
  refine ⟨h.follows.bind fun r y hr => ?_⟩
  cases r with
  | ok a => exact .done hr
  | error e => exact (rest e y hr).follows

lemma adapt {bad : ε' → σ → Prop} {f : ε → ε'}
    (h : FollowsOr rules ok (fun e y => bad (f e) y) p x) :
    FollowsOr rules ok bad (p.adapt f) x := by
  refine ⟨h.follows.bind fun r y hr => ?_⟩
  cases r <;> exact .done hr

/-- An operation whose errors are failures. -/
lemma of_request {o : Store.Operation} {error : StoreError → ε} {ok : o.Result → σ → Prop}
    (permitted : rules.permits x o) (good : ∀ a, ok a (rules.next x o (.ok a)))
    (failed : ∀ e, bad (error e) (rules.next x o (.error e))) :
    FollowsOr rules ok bad (do
      match ← Program.request o with
      | .ok a => return a
      | .error e => throw (error e) : ExceptT ε Program o.Result) x := by
  refine FollowsOr.bind (M := fun r y => y = rules.next x o r)
    (.of_lift (Program.follows_request permitted fun _ => rfl)) ?_
  rintro r _ rfl
  cases r with
  | ok a => exact .of_pure (good a)
  | error e => exact .of_throw (failed e)

end FollowsOr

/-! ## Company -/

namespace Scene

variable {ι : Type} [DecidableEq ι] {α : ι → Type} {S S' : Scene ι α}

/-- Each program keeps to its rules from the stage that it is at. -/
def Follow (rules : ι → Rules σ) (ends : ∀ i, α i → σ → Prop) (S : Scene ι α) (x : ι → σ) : Prop :=
  ∀ i, (S.left i).Follows (rules i) (ends i) (x i)

variable {rules : ι → Rules σ} {ends : ∀ i, α i → σ → Prop} {x : ι → σ}

/-- At a turn, one program goes on to another stage. -/
lemma Turn.follow (h : Turn S S') (follow : Follow rules ends S x) :
    ∃ i y, (rules i).Request (x i) S.store y S'.store ∧
      Follow rules ends S' (Function.update x i y) := by
  obtain ⟨i, step⟩ := h
  obtain ⟨y, request, rest⟩ := step.follows (follow i)
  refine ⟨i, y, request, fun j => ?_⟩
  obtain rfl | other := eq_or_ne j i
  · simpa using rest
  · simpa [other] using follow j

/-- What each permitted request of each program keeps, is kept at all turns. -/
lemma Turns.follow {J : (ι → σ) → Store → Prop}
    (keeps : ∀ x s i y s', J x s → (rules i).Request (x i) s y s' → J (Function.update x i y) s')
    (h : Turns S S') (follow : Follow rules ends S x) (start : J x S.store) :
    ∃ y, Follow rules ends S' y ∧ J y S'.store := by
  induction h with
  | refl => exact ⟨x, follow, start⟩
  | tail _ last ih =>
    obtain ⟨y, follow, holds⟩ := ih
    obtain ⟨i, z, request, rest⟩ := last.follow follow
    exact ⟨_, rest, keeps _ _ _ _ _ holds request⟩

end Scene

end CodeAtlas
