import CodeAtlas.Program

/-! # Executions

What may become of a program while its requests are answered one after the other. An operation of
the store is performed, or it fails for whatever reason and leaves the store as it is. The clock
never goes back, and the service that writes answers says anything. A program may be cut off before
any of its requests. -/
namespace CodeAtlas

/-- An operation, what the store said to it, and the store afterwards. -/
structure Event where
  operation : Store.Operation
  answer : Except StoreError operation.Result
  store : Store

/-- The store, the last reading of the clock, and what the store was asked so far. -/
structure World where
  store : Store
  time : Int
  trace : List Event := []

namespace World

/-- The world after a reading of the clock. -/
def read (w : World) (t : Int) : World := { w with time := t }

/-- The world after an operation. -/
def answered (w : World) (t : Int) (o : Store.Operation) (r : Except StoreError o.Result)
    (s : Store) : World :=
  ⟨s, t, w.trace ++ [⟨o, r, s⟩]⟩

theorem trace_answered {w : World} {t : Int} {o : Store.Operation}
    {r : Except StoreError o.Result} {s : Store} :
    (w.answered t o r s).trace = w.trace ++ [⟨o, r, s⟩] := rfl

end World

/-- What the store may say to an operation, and what it may be afterwards. -/
inductive Store.Answers (s : Store) (now : Int) (o : Operation) :
    Except StoreError o.Result → Store → Prop
  | performed : Answers s now o (s.perform now o).1 (s.perform now o).2
  | failed (e : StoreError) : Answers s now o (.error e) s

theorem Store.Answers.eq_perform {s s' : Store} {now : Int} {o : Operation} {a : o.Result}
    (h : s.Answers now o (.ok a) s') : s.perform now o = (.ok a, s') := by
  generalize hr : Except.ok a = r at h
  cases h with
  | performed => rfl
  | failed e => cases hr

theorem Store.Answers.of_perform {s s' : Store} {now : Int} {o : Operation}
    {r : Except StoreError o.Result} (h : s.perform now o = (r, s')) : s.Answers now o r s' := by
  have answers : s.Answers now o _ _ := .performed
  rwa [h] at answers

namespace Program

/-- One request is answered. -/
inductive Step : Program α → World → Program α → World → Prop
  | now {next : Int → Program α} {w : World} {t : Int} (later : w.time ≤ t) :
      Step (.now next) w (next t) (w.read t)
  | perform {o : Store.Operation} {next : Except StoreError o.Result → Program α} {w : World}
      {t : Int} {r : Except StoreError o.Result} {s : Store} (later : w.time ≤ t)
      (answers : w.store.Answers t o r s) :
      Step (.perform o next) w (next r) (w.answered t o r s)
  | complete {prompt : String}
      {next : Except Inference.ServiceError (Option Inference.Completion) → Program α} {w : World}
      (reply : Except Inference.ServiceError (Option Inference.Completion)) :
      Step (.complete prompt next) w (next reply) w

/-- Any number of requests are answered. -/
inductive Steps : Program α → World → Program α → World → Prop
  | refl (p : Program α) (w : World) : Steps p w p w
  | step {p q r : Program α} {w v u : World} (first : Step p w q v) (rest : Steps q v r u) :
      Steps p w r u

/-- Whether there is a request left. -/
def Pending : Program α → Prop
  | done _ => False
  | _ => True

theorem steps_request {o : Store.Operation} {w : World} {t : Int}
    {r : Except StoreError o.Result} {s : Store} (later : w.time ≤ t)
    (answers : w.store.Answers t o r s) : Steps (request o) w (done r) (w.answered t o r s) :=
  .step (.perform later answers) (.refl _ _)

theorem Step.bind {p q : Program α} {f : α → Program β} {w v : World} (h : Step p w q v) :
    Step (p >>= f) w (q >>= f) v := by
  cases h with
  | now later => exact .now later
  | perform later answers => exact .perform later answers
  | complete reply => exact .complete reply

theorem Steps.later {p q : Program α} {w v : World} (h : Steps p w q v) : w.time ≤ v.time := by
  induction h with
  | refl => exact Int.le_refl _
  | step first rest ih =>
    cases first with
    | now later => exact Int.le_trans later ih
    | perform later answers => exact Int.le_trans later ih
    | complete reply => exact ih

/-- One program is executed, and then another that knows its value. -/
theorem Steps.bind {p : Program α} {a : α} {f : α → Program β} {q : Program β} {w v u : World}
    (h : Steps p w (done a) v) (rest : Steps (f a) v q u) : Steps (p >>= f) w q u := by
  generalize hd : done a = d at h
  induction h with
  | refl =>
    subst hd
    exact rest
  | step first _ ih => exact .step first.bind (ih rest hd)

/-! ## Runs are executions -/

/-- What the store is asked in a run. -/
def events (services : Inference.Services) (clock : Nat → Int) : Program α → Moment → List Event
  | done _, _ => []
  | now next, m =>
      (next (clock m.readings)).events services clock { m with readings := m.readings + 1 }
  | perform o next, m =>
      let (r, store) := m.store.perform (clock m.readings) o
      ⟨o, r, store⟩ ::
        (next r).events services clock { m with store, readings := m.readings + 1 }
  | complete prompt next, m =>
      (next (services.complete prompt)).events services clock
        { m with prompts := prompt :: m.prompts }

/-- Under a clock that never goes back, a run is one of the executions. -/
theorem steps_run (services : Inference.Services) (clock : Nat → Int)
    (forward : ∀ n, clock n ≤ clock (n + 1)) (p : Program α) (m : Moment) (time : Int)
    (trace : List Event) (later : time ≤ clock m.readings) :
    ∃ time', time' ≤ clock (p.run services clock m).2.readings ∧
      Steps p ⟨m.store, time, trace⟩ (done (p.run services clock m).1)
        ⟨(p.run services clock m).2.store, time', trace ++ p.events services clock m⟩ := by
  induction p generalizing m time trace with
  | done a => exact ⟨time, later, by simpa [run, events] using Steps.refl _ _⟩
  | now next ih =>
    obtain ⟨time', last, rest⟩ :=
      ih (clock m.readings) { m with readings := m.readings + 1 } (clock m.readings) trace
        (forward _)
    exact ⟨time', last, .step (.now later) rest⟩
  | perform o next ih =>
    obtain ⟨time', last, rest⟩ :=
      ih (m.store.perform (clock m.readings) o).1
        { m with store := (m.store.perform (clock m.readings) o).2, readings := m.readings + 1 }
        (clock m.readings)
        (trace ++ [⟨o, (m.store.perform (clock m.readings) o).1,
          (m.store.perform (clock m.readings) o).2⟩])
        (forward _)
    refine ⟨time', last, .step (.perform later .performed) ?_⟩
    simpa [run, events, World.answered] using rest
  | complete prompt next ih =>
    obtain ⟨time', last, rest⟩ :=
      ih (services.complete prompt) { m with prompts := prompt :: m.prompts } time trace later
    exact ⟨time', last, .step (.complete _) rest⟩

/-! ## What holds of all executions -/

/-- Whatever is answered, `inv` holds whenever a request is left, of the world and of the operation
that is asked for if it is one, and `post` holds at the end. -/
def Ensures (inv : World → Option Store.Operation → Prop) (post : α → World → Prop) :
    Program α → World → Prop
  | done a, w => post a w
  | now next, w => inv w none ∧ ∀ t, w.time ≤ t → (next t).Ensures inv post (w.read t)
  | perform o next, w =>
      inv w (some o) ∧ ∀ t, w.time ≤ t → ∀ r s, w.store.Answers t o r s →
        (next r).Ensures inv post (w.answered t o r s)
  | complete _ next, w => inv w none ∧ ∀ reply, (next reply).Ensures inv post w

variable {inv : World → Option Store.Operation → Prop}

theorem Step.ensures {post : α → World → Prop} {p q : Program α} {w v : World}
    (h : Step p w q v) (hp : p.Ensures inv post w) : q.Ensures inv post v := by
  cases h with
  | now later => exact hp.2 _ later
  | perform later answers => exact hp.2 _ later _ _ answers
  | complete reply => exact hp.2 reply

/-- What a program ensures, it still ensures wherever an execution of it has got to. -/
theorem Steps.ensures {post : α → World → Prop} {p q : Program α} {w v : World}
    (h : Steps p w q v) (hp : p.Ensures inv post w) : q.Ensures inv post v := by
  induction h with
  | refl => exact hp
  | step first _ ih => exact ih (first.ensures hp)

theorem Ensures.of_pending {post : α → World → Prop} {p : Program α} {w : World}
    (h : p.Ensures inv post w) (pending : p.Pending) : ∃ o, inv w o := by
  cases p with
  | done a => exact pending.elim
  | now next => exact ⟨none, h.1⟩
  | perform o next => exact ⟨some o, h.1⟩
  | complete prompt next => exact ⟨none, h.1⟩

/-- What holds at every request and at the end, holds now. -/
theorem Ensures.always {J : World → Prop} {p : Program α} {w : World}
    (h : p.Ensures (fun v _ => J v) (fun _ v => J v) w) : J w := by
  cases p with
  | done a => exact h
  | now next => exact h.1
  | perform o next => exact h.1
  | complete prompt next => exact h.1

theorem Ensures.mono {post post' : α → World → Prop} {p : Program α} {w : World}
    (h : p.Ensures inv post w) (hpost : ∀ a v, post a v → post' a v) : p.Ensures inv post' w := by
  induction p generalizing w with
  | done a => exact hpost a w h
  | now next ih => exact ⟨h.1, fun t later => ih t (h.2 t later)⟩
  | perform o next ih => exact ⟨h.1, fun t later r s answers => ih r (h.2 t later r s answers)⟩
  | complete prompt next ih => exact ⟨h.1, fun reply => ih reply (h.2 reply)⟩

theorem ensures_trivial (p : Program α) (w : World) :
    p.Ensures (fun _ _ => True) (fun _ _ => True) w := by
  induction p generalizing w with
  | done a => trivial
  | now next ih => exact ⟨trivial, fun t _ => ih t _⟩
  | perform o next ih => exact ⟨trivial, fun t _ r s _ => ih r _⟩
  | complete prompt next ih => exact ⟨trivial, fun reply => ih reply _⟩

theorem Ensures.weaken {inv' : World → Option Store.Operation → Prop} {post : α → World → Prop}
    {p : Program α} {w : World} (h : p.Ensures inv post w) (hinv : ∀ v o, inv v o → inv' v o) :
    p.Ensures inv' post w := by
  induction p generalizing w with
  | done a => exact h
  | now next ih => exact ⟨hinv _ _ h.1, fun t later => ih t (h.2 t later)⟩
  | perform o next ih =>
    exact ⟨hinv _ _ h.1, fun t later r s answers => ih r (h.2 t later r s answers)⟩
  | complete prompt next ih => exact ⟨hinv _ _ h.1, fun reply => ih reply (h.2 reply)⟩

/-- What every request keeps that the program makes, the program keeps. -/
theorem Ensures.keep {J : World → Prop} {post : α → World → Prop} {p : Program α} {w : World}
    (h : p.Ensures inv post w) (start : J w) (read : ∀ v t, J v → v.time ≤ t → J (v.read t))
    (step : ∀ v o t r s, J v → inv v (some o) → v.time ≤ t → v.store.Answers t o r s →
      J (v.answered t o r s)) :
    p.Ensures (fun v o => inv v o ∧ J v) (fun a v => post a v ∧ J v) w := by
  induction p generalizing w with
  | done a => exact ⟨h, start⟩
  | now next ih => exact ⟨⟨h.1, start⟩, fun t later => ih t (h.2 t later) (read w t start later)⟩
  | perform o next ih =>
    exact ⟨⟨h.1, start⟩, fun t later r s answers =>
      ih r (h.2 t later r s answers) (step w o t r s start h.1 later answers)⟩
  | complete prompt next ih => exact ⟨⟨h.1, start⟩, fun reply => ih reply (h.2 reply) start⟩

@[simp] theorem ensures_pure {post : α → World → Prop} {a : α} {w : World} :
    (pure a : Program α).Ensures inv post w ↔ post a w := Iff.rfl

theorem ensures_bind {post : β → World → Prop} {p : Program α} {f : α → Program β} {w : World} :
    (p >>= f).Ensures inv post w ↔ p.Ensures inv (fun a v => (f a).Ensures inv post v) w := by
  change (p.bind f).Ensures inv post w ↔ _
  induction p generalizing w with
  | done a => rfl
  | now next ih => simp only [bind, Ensures, ih]
  | perform o next ih => simp only [bind, Ensures, ih]
  | complete prompt next ih => simp only [bind, Ensures, ih]

theorem ensures_request {o : Store.Operation} {post : Except StoreError o.Result → World → Prop}
    {w : World} :
    (request o).Ensures inv post w ↔ inv w (some o) ∧ ∀ t, w.time ≤ t → ∀ r s,
      w.store.Answers t o r s → post r (w.answered t o r s) :=
  Iff.rfl

end Program

/-! ## Programs that may fail -/

/-- Whatever is answered, `inv` holds whenever a request is left, `ok` at a good end and `bad` at a
failure. -/
structure EnsuresOr (inv : World → Option Store.Operation → Prop) (ok : α → World → Prop)
    (bad : ε → World → Prop) (x : ExceptT ε Program α) (w : World) : Prop where
  ensures : x.run.Ensures inv (fun r v => match r with | .ok a => ok a v | .error e => bad e v) w

/-- An execution of a program that may fail gives a result. -/
def Gives (x : ExceptT ε Program α) (w : World) (r : Except ε α) (v : World) : Prop :=
  x.run.Steps w (.done r) v

namespace Gives

variable {x : ExceptT ε Program α} {w v u : World}

theorem lift {p : Program α} {a : α} (h : p.Steps w (.done a) v) :
    Gives (liftM p : ExceptT ε Program α) w (.ok a) v :=
  Program.Steps.bind h (.refl _ _)

theorem bind {f : α → ExceptT ε Program β} {a : α} {r : Except ε β} (hx : Gives x w (.ok a) v)
    (hf : Gives (f a) v r u) : Gives (x >>= f) w r u :=
  Program.Steps.bind hx hf

theorem bind_error {f : α → ExceptT ε Program β} {e : ε} (hx : Gives x w (.error e) v) :
    Gives (x >>= f) w (.error e) v :=
  Program.Steps.bind hx (.refl _ _)

theorem tryCatch {handle : ε → ExceptT ε Program α} {e : ε} {r : Except ε α}
    (hx : Gives x w (.error e) v) (hh : Gives (handle e) v r u) :
    Gives (tryCatch x handle) w r u :=
  Program.Steps.bind hx hh

end Gives

namespace EnsuresOr

variable {inv : World → Option Store.Operation → Prop} {bad : ε → World → Prop} {w : World}

theorem of_pure {ok : α → World → Prop} {a : α} (h : ok a w) :
    EnsuresOr inv ok bad (pure a : ExceptT ε Program α) w := ⟨h⟩

theorem of_throw {ok : α → World → Prop} {e : ε} (h : bad e w) :
    EnsuresOr inv ok bad (throw e : ExceptT ε Program α) w := ⟨h⟩

theorem of_except {ok : α → World → Prop} {x : Except ε α} (good : ∀ a, x = .ok a → ok a w)
    (failed : ∀ e, x = .error e → bad e w) :
    EnsuresOr inv ok bad (liftM x : ExceptT ε Program α) w := by
  cases x with
  | ok a => exact ⟨good a rfl⟩
  | error e => exact ⟨failed e rfl⟩

theorem of_lift {ok : α → World → Prop} {p : Program α} (h : p.Ensures inv ok w) :
    EnsuresOr inv ok bad (liftM p : ExceptT ε Program α) w :=
  ⟨Program.ensures_bind.2 h⟩

theorem mono {ok ok' : α → World → Prop} {bad' : ε → World → Prop} {x : ExceptT ε Program α}
    (h : EnsuresOr inv ok bad x w) (hok : ∀ a v, ok a v → ok' a v)
    (hbad : ∀ e v, bad e v → bad' e v) : EnsuresOr inv ok' bad' x w := by
  refine ⟨h.ensures.mono fun r v hr => ?_⟩
  cases r with
  | ok a => exact hok a v hr
  | error e => exact hbad e v hr

theorem weaken {inv' : World → Option Store.Operation → Prop} {ok : α → World → Prop}
    {x : ExceptT ε Program α} (h : EnsuresOr inv ok bad x w) (hinv : ∀ v o, inv v o → inv' v o) :
    EnsuresOr inv' ok bad x w :=
  ⟨h.ensures.weaken hinv⟩

/-- What is known of a failure. -/
theorem of_failed {ok : α → World → Prop} {x : ExceptT ε Program α} {e : ε} {v : World}
    (h : EnsuresOr inv ok bad x w) (steps : x.run.Steps w (.done (.error e)) v) : bad e v :=
  steps.ensures h.ensures

/-- What holds at every request and at the end, holds wherever an execution has got to. -/
theorem of_steps {J : World → Prop} {x : ExceptT ε Program α} {v : World}
    {p : Program (Except ε α)}
    (h : EnsuresOr (fun v _ => J v) (fun _ v => J v) (fun _ v => J v) x w)
    (steps : x.run.Steps w p v) : J v := by
  refine (steps.ensures (h.ensures.mono fun r v hr => ?_)).always
  cases r <;> exact hr

/-- What every request keeps, the program keeps, whether it fails or not. -/
theorem keep {J : World → Prop} {ok : α → World → Prop} {x : ExceptT ε Program α}
    (h : EnsuresOr inv ok bad x w) (start : J w)
    (read : ∀ v t, J v → v.time ≤ t → J (v.read t))
    (step : ∀ v o t r s, J v → inv v (some o) → v.time ≤ t → v.store.Answers t o r s →
      J (v.answered t o r s)) :
    EnsuresOr (fun v o => inv v o ∧ J v) (fun a v => ok a v ∧ J v) (fun e v => bad e v ∧ J v)
      x w := by
  refine ⟨(h.ensures.keep start read step).mono fun r v hr => ?_⟩
  cases r with
  | ok a => exact hr
  | error e => exact hr

/-- One part after another; the first failure ends them all. -/
theorem bind {M : α → World → Prop} {ok : β → World → Prop} {x : ExceptT ε Program α}
    {f : α → ExceptT ε Program β} (hx : EnsuresOr inv M bad x w)
    (hf : ∀ a v, M a v → EnsuresOr inv ok bad (f a) v) : EnsuresOr inv ok bad (x >>= f) w := by
  refine ⟨Program.ensures_bind.2 (hx.ensures.mono fun r v hr => ?_)⟩
  cases r with
  | ok a => exact (hf a v hr).ensures
  | error e => exact hr

/-- An operation whose errors are failures. -/
theorem of_request {o : Store.Operation} {error : StoreError → ε} {ok : o.Result → World → Prop}
    (pending : inv w (some o))
    (good : ∀ t, w.time ≤ t → ∀ a s, w.store.Answers t o (.ok a) s →
      ok a (w.answered t o (.ok a) s))
    (failed : ∀ t, w.time ≤ t → ∀ e s, w.store.Answers t o (.error e) s →
      bad (error e) (w.answered t o (.error e) s)) :
    EnsuresOr inv ok bad (do
      match ← Program.request o with
      | .ok a => return a
      | .error e => throw (error e) : ExceptT ε Program o.Result) w := by
  refine EnsuresOr.bind (M := fun r v => EnsuresOr inv ok bad
    (match r with | .ok a => pure a | .error e => throw (error e)) v) ?_ fun _ _ h => h
  refine EnsuresOr.of_lift (Program.ensures_request.2 ⟨pending, fun t later r s answers => ?_⟩)
  cases r with
  | ok a => exact .of_pure (good t later a s answers)
  | error e => exact .of_throw (failed t later e s answers)

theorem tryCatch {M : ε → World → Prop} {ok : α → World → Prop} {x : ExceptT ε Program α}
    {handle : ε → ExceptT ε Program α} (hx : EnsuresOr inv ok M x w)
    (hh : ∀ e v, M e v → EnsuresOr inv ok bad (handle e) v) :
    EnsuresOr inv ok bad (tryCatch x handle) w := by
  refine ⟨Program.ensures_bind.2 (hx.ensures.mono fun r v hr => ?_)⟩
  cases r with
  | ok a => exact hr
  | error e => exact (hh e v hr).ensures

end EnsuresOr

end CodeAtlas
